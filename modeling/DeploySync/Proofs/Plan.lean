import DeploySync.Plan

/-!
# Runs of plans

A run of a plan shows the calls it makes, each with what was answered, and ends with a result. The
calls of a plan that goes on are those of its parts, an invariant of every call is one of every run,
and a failing call is the last one.

## Main definitions

* `Plan.Answered` — a call with what was answered
* `Plan.Asks` — every call that a plan can make has a property, whatever is answered
* `Plan.EndsWell` — the plan fails only where a call does
* `Plan.Answers` — whatever a call was answered in a run, it was one value
* `Plan.isDone`, `Plan.Within` — the plan makes no call any more, or at most so many
* `Plan.Follows` — a run follows a script of calls, place by place
* `Plan.Matched` — two runs end with the same error, or with results and states in relation

## Main results

* `Plan.calls_bind`, `Plan.bind_assoc` — plans in sequence
* `Plan.run_invariant` — what every call of a run keeps, the run keeps
* `Plan.forall_mem_calls` — the calls of a run are among those that the plan can make
* `Plan.EndsWell.exists_failed`, `Plan.run_eq_of_failed` — the error of a run, and the call that
  failed with it
* `Follows.asked`, `Follows.failed`, `Follows.stopped`, `Follows.done` — following a script call by
  call
* `Plan.follows_bind` — following the scripts of two parts one after the other
* `Plan.Matched.bind` — two runs that match in their parts match
-/

namespace DeploySync.Plan

/-- A call with what was answered. -/
abbrev Answered (Q : Type) (A : Q → Type) := (q : Q) × Except Error (A q)

variable {Q : Type} {A : Q → Type} {α β γ σ : Type}
variable {h : Handler Q A σ} {q : Q} {next : A q → Plan Q A α} {s t : σ}

/-! ### Plans in sequence -/

theorem bind_eq (p : Plan Q A α) (f : α → Plan Q A β) : (p >>= f) = p.bind f := rfl

theorem pure_eq (a : α) : (pure a : Plan Q A α) = done (.ok a) := rfl

theorem bind_assoc (p : Plan Q A α) (f : α → Plan Q A β) (g : β → Plan Q A γ) :
    (p.bind f).bind g = p.bind fun a => (f a).bind g := by
  induction p with
  | done result => cases result <;> rfl
  | ask q next ih =>
    simp only [bind_ask]
    congr 1
    funext a
    exact ih a

/-- A plan that only hands on the result of another one is that plan. -/
theorem bind_done (p : Plan Q A α) : (p.bind fun a => done (.ok a)) = p := by
  induction p with
  | done result => cases result <;> rfl
  | ask q next ih =>
    simp only [bind_ask]
    congr 1
    funext a
    exact ih a

theorem ofExcept_bind_bind (result : Except Error α) (f : α → Except Error β)
    (next : β → Plan Q A γ) :
    ((ofExcept result).bind fun a => (ofExcept (f a)).bind next) =
      (ofExcept (result.bind f)).bind next := by
  cases result <;> rfl

theorem run_ask_ok {a : A q} (hq : h q s = (.ok a, t)) :
    (ask q next).run h s = (next a).run h t := by
  simp only [run, hq]

theorem run_ask_error {e : Error} (hq : h q s = (.error e, t)) :
    (ask q next).run h s = (.error e, t) := by
  simp only [run, hq]

/-- A plan of a single call ends with its answer. -/
theorem run_call (h : Handler Q A σ) (q : Q) (s : σ) : (call q).run h s = h q s := by
  rw [call]
  rcases hq : h q s with ⟨e | a, t⟩
  · rw [run_ask_error hq]
  · rw [run_ask_ok hq, run_done]

@[simp] theorem calls_done (h : Handler Q A σ) (result : Except Error α) (s : σ) :
    (done result).calls h s = [] := rfl

theorem calls_ask_ok {a : A q} (hq : h q s = (.ok a, t)) :
    (ask q next).calls h s = ⟨q, .ok a⟩ :: (next a).calls h t := by
  simp only [calls, hq]

theorem calls_ask_error {e : Error} (hq : h q s = (.error e, t)) :
    (ask q next).calls h s = [⟨q, .error e⟩] := by
  simp only [calls, hq]

theorem exists_calls_ask (h : Handler Q A σ) (q : Q) (next : A q → Plan Q A α) (s : σ) :
    ∃ rest, (ask q next).calls h s = ⟨q, (h q s).1⟩ :: rest := by
  rcases hq : h q s with ⟨e | a, t⟩
  · exact ⟨[], calls_ask_error hq⟩
  · exact ⟨(next a).calls h t, calls_ask_ok hq⟩

theorem run_bind_ok {p : Plan Q A α} {a : α} (hp : p.run h s = (.ok a, t))
    (f : α → Plan Q A β) : (p.bind f).run h s = (f a).run h t := by
  rw [run_bind, hp]

theorem run_bind_error {p : Plan Q A α} {e : Error} (hp : p.run h s = (.error e, t))
    (f : α → Plan Q A β) : (p.bind f).run h s = (.error e, t) := by
  rw [run_bind, hp]

/-- A plan that goes on ends well exactly if both of its parts do. -/
theorem run_bind_eq_ok_iff {p : Plan Q A α} {f : α → Plan Q A β} {b : β} :
    (p.bind f).run h s = (.ok b, t) ↔
      ∃ a s', p.run h s = (.ok a, s') ∧ (f a).run h s' = (.ok b, t) := by
  rw [run_bind]
  rcases p.run h s with ⟨e | a, s'⟩
  · simp
  · constructor
    · intro hrest
      exact ⟨a, s', rfl, hrest⟩
    · rintro ⟨a', s'', hp, hrest⟩
      obtain ⟨ha, rfl⟩ := Prod.mk.inj hp
      obtain rfl := Except.ok.inj ha
      exact hrest

/-- The calls of a plan that goes on are those of its first part, and then those of the rest if the
first part ends well. -/
theorem calls_bind (h : Handler Q A σ) (p : Plan Q A α) (f : α → Plan Q A β) (s : σ) :
    (p.bind f).calls h s =
      p.calls h s ++
        match p.run h s with
        | (.ok a, t) => (f a).calls h t
        | (.error _, _) => [] := by
  induction p generalizing s with
  | done result => cases result <;> rfl
  | ask q next ih =>
    rw [bind_ask]
    rcases hq : h q s with ⟨e | a, t⟩
    · rw [calls_ask_error hq, calls_ask_error hq, run_ask_error hq]
      rfl
    · rw [calls_ask_ok hq, calls_ask_ok hq, run_ask_ok hq, ih a t]
      rfl

theorem calls_bind_ok {p : Plan Q A α} {a : α} (hp : p.run h s = (.ok a, t))
    (f : α → Plan Q A β) : (p.bind f).calls h s = p.calls h s ++ (f a).calls h t := by
  rw [calls_bind, hp]

theorem calls_bind_error {p : Plan Q A α} {e : Error} (hp : p.run h s = (.error e, t))
    (f : α → Plan Q A β) : (p.bind f).calls h s = p.calls h s := by
  rw [calls_bind, hp, List.append_nil]

/-- A plan whose result is made of that of another one makes the same calls. -/
theorem calls_bind_done (h : Handler Q A σ) (p : Plan Q A α) (f : α → β) (s : σ) :
    (p.bind fun a => done (.ok (f a))).calls h s = p.calls h s := by
  rcases hp : p.run h s with ⟨e | a, t⟩
  · rw [calls_bind_error hp]
  · rw [calls_bind_ok hp, calls_done, List.append_nil]

theorem run_bind_done (h : Handler Q A σ) (p : Plan Q A α) (f : α → β) (s : σ) :
    (p.bind fun a => done (.ok (f a))).run h s = ((p.run h s).1.map f, (p.run h s).2) := by
  rcases hp : p.run h s with ⟨e | a, t⟩
  · rw [run_bind_error hp]
    rfl
  · rw [run_bind_ok hp]
    rfl

/-! ### What a plan can ask -/

/-- Every call that the plan can make has the property, whatever the calls before it are
answered. -/
def Asks (P : Q → Prop) : Plan Q A α → Prop
  | done _ => True
  | ask q next => P q ∧ ∀ a, (next a).Asks P

@[simp] theorem asks_done {P : Q → Prop} (result : Except Error α) :
    (done result : Plan Q A α).Asks P := trivial

theorem asks_true (p : Plan Q A α) : p.Asks fun _ => True := by
  induction p with
  | done result => exact asks_done _
  | ask q next ih => exact ⟨trivial, ih⟩

theorem Asks.bind {P : Q → Prop} {p : Plan Q A α} {f : α → Plan Q A β} (hp : p.Asks P)
    (hf : ∀ a, (f a).Asks P) : (p.bind f).Asks P := by
  induction p with
  | done result =>
    cases result with
    | error e => exact asks_done _
    | ok a => exact hf a
  | ask q next ih => exact ⟨hp.1, fun a => ih a (hp.2 a)⟩

theorem Asks.mono {P P' : Q → Prop} {p : Plan Q A α} (hp : p.Asks P) (hP : ∀ q, P q → P' q) :
    p.Asks P' := by
  induction p with
  | done result => exact asks_done _
  | ask q next ih => exact ⟨hP q hp.1, fun a => ih a (hp.2 a)⟩

/-- The calls of a run are among those that the plan can make. -/
theorem forall_mem_calls {P : Q → Prop} {p : Plan Q A α} (hp : p.Asks P) (s : σ) :
    ∀ x ∈ p.calls h s, P x.1 := by
  induction p generalizing s with
  | done result => simp
  | ask q next ih =>
    rcases hq : h q s with ⟨e | a, t⟩
    · rw [calls_ask_error hq]
      simpa using hp.1
    · rw [calls_ask_ok hq]
      intro x hx
      rcases List.mem_cons.1 hx with rfl | hx
      · exact hp.1
      · exact ih a (hp.2 a) t x hx

/-! ### Invariants -/

/-- An invariant that every call of a run keeps, given what it was answered, is kept by the run. -/
theorem run_invariant {I : σ → Prop} (allowed : Answered Q A → Prop)
    (step : ∀ q s, I s → allowed ⟨q, (h q s).1⟩ → I (h q s).2) (p : Plan Q A α) {s : σ} (hs : I s)
    (hall : ∀ x ∈ p.calls h s, allowed x) : I (p.run h s).2 := by
  induction p generalizing s with
  | done result => exact hs
  | ask q next ih =>
    -- the state behind a call keeps the invariant whether the call failed or not
    rcases hq : h q s with ⟨e | a, t⟩
    · rw [calls_ask_error hq] at hall
      rw [run_ask_error hq]
      have ht := step q s hs (by rw [hq]; exact hall _ (by simp))
      rwa [hq] at ht
    · rw [calls_ask_ok hq] at hall
      rw [run_ask_ok hq]
      have ht := step q s hs (by rw [hq]; exact hall _ (by simp))
      rw [hq] at ht
      exact ih a ht fun x hx => hall x (List.mem_cons_of_mem _ hx)

/-! ### Plans that fail only where a call does -/

/-- Unless a call fails, the plan ends well, whatever is answered. -/
def EndsWell : Plan Q A α → Prop
  | done result => result.isOk
  | ask _ next => ∀ a, (next a).EndsWell

theorem EndsWell.bind {p : Plan Q A α} {f : α → Plan Q A β} (hp : p.EndsWell)
    (hf : ∀ a, (f a).EndsWell) : (p.bind f).EndsWell := by
  induction p with
  | done result =>
    cases result with
    | error e => cases hp
    | ok a => exact hf a
  | ask q next ih => exact fun a => ih a (hp a)

theorem EndsWell.exists_failed {p : Plan Q A α} {e : Error} (hp : p.EndsWell)
    (hrun : (p.run h s).1 = .error e) : ∃ q, ⟨q, .error e⟩ ∈ p.calls h s := by
  induction p generalizing s with
  | done result =>
    rw [run_done] at hrun
    obtain rfl : result = .error e := hrun
    cases hp
  | ask q next ih =>
    rcases hq : h q s with ⟨e' | a, t⟩
    · rw [run_ask_error hq] at hrun
      obtain rfl : e' = e := Except.error.inj hrun
      exact ⟨q, by rw [calls_ask_error hq]; exact List.mem_singleton_self _⟩
    · rw [run_ask_ok hq] at hrun
      obtain ⟨q', hmem⟩ := ih a (hp a) hrun
      exact ⟨q', by rw [calls_ask_ok hq]; exact List.mem_cons_of_mem _ hmem⟩

/-- The error of a call that fails is the result. -/
theorem run_eq_of_failed {p : Plan Q A α} {e : Error} (hmem : ⟨q, .error e⟩ ∈ p.calls h s) :
    (p.run h s).1 = .error e := by
  induction p generalizing s with
  | done result => cases hmem
  | ask q' next ih =>
    rcases hq : h q' s with ⟨e' | a, t⟩
    · rw [calls_ask_error hq] at hmem
      rw [run_ask_error hq]
      cases List.mem_singleton.1 hmem
      rfl
    · rw [calls_ask_ok hq] at hmem
      rw [run_ask_ok hq]
      rcases List.mem_cons.1 hmem with heq | hmem
      · cases heq
      · exact ih a hmem

/-! ### How many calls a plan makes -/

/-- The plan makes no call any more. -/
def isDone : Plan Q A α → Bool
  | done _ => true
  | ask .. => false

theorem isDone_bind {p : Plan Q A α} (hp : p.isDone = false) (f : α → Plan Q A β) :
    (p.bind f).isDone = false := by
  cases p with
  | done result => cases hp
  | ask q next => rfl

/-- Whatever is answered, the plan makes at most so many calls. -/
def Within : Plan Q A α → Nat → Prop
  | done _, _ => True
  | ask .., 0 => False
  | ask _ next, n + 1 => ∀ a, (next a).Within n

theorem Within.isDone {p : Plan Q A α} (hp : p.Within 0) : p.isDone := by
  cases p with
  | done result => rfl
  | ask q next => exact hp.elim

theorem Within.mono {p : Plan Q A α} {m n : Nat} (hp : p.Within m) (hmn : m ≤ n) : p.Within n := by
  induction p generalizing m n with
  | done result => trivial
  | ask q next ih =>
    cases m with
    | zero => exact hp.elim
    | succ m =>
      obtain ⟨n, rfl⟩ := Nat.exists_eq_add_of_lt hmn
      rw [show m + n + 1 = (m + n) + 1 from rfl]
      exact fun a => ih a (hp a) (Nat.le_add_right m n)

theorem Within.bind {p : Plan Q A α} {f : α → Plan Q A β} {m n : Nat} (hp : p.Within m)
    (hf : ∀ a, (f a).Within n) : (p.bind f).Within (m + n) := by
  induction p generalizing m with
  | done result =>
    cases result with
    | error e => trivial
    | ok a => exact (hf a).mono (Nat.le_add_left n m)
  | ask q next ih =>
    cases m with
    | zero => exact hp.elim
    | succ m =>
      rw [Nat.succ_add]
      exact fun a => ih a (hp a)

/-! ### Answers -/

/-- Whatever the call was answered in a run, unless it failed, it was the value. -/
def Answers (shown : List (Answered Q A)) (q : Q) (a : A q) : Prop :=
  ∀ a', ⟨q, .ok a'⟩ ∈ shown → a' = a

/-- A call has one answer in a plan that goes on if it has that answer in its parts. -/
theorem Answers.bind {p : Plan Q A α} {f : α → Plan Q A β} {a : A q}
    (hp : Answers (p.calls h s) q a)
    (hf : ∀ x t, p.run h s = (.ok x, t) → Answers ((f x).calls h t) q a) :
    Answers ((p.bind f).calls h s) q a := by
  rcases hrun : p.run h s with ⟨e | x, t⟩
  · rwa [calls_bind_error hrun]
  · rw [calls_bind_ok hrun]
    intro a' hmem
    exact (List.mem_append.1 hmem).elim (hp a') (hf x t hrun a')

/-- A call that is not made has any answer. -/
theorem answers_of_asks {p : Plan Q A α} (hp : p.Asks (· ≠ q)) (s : σ) (a : A q) :
    Answers (p.calls h s) q a := fun _ hmem =>
  absurd rfl (forall_mem_calls hp s _ hmem)

/-! ### Following a script -/

/-- A run follows a script, each place of which is a call or an error that ends the run there. Its
calls are the first places of the script, no call follows one that failed, and the error of a call
that failed is the result. The result is good exactly if the whole script was gone through and every
call succeeded, and otherwise it is the error of a call, or of the place behind the last call. -/
structure Follows (script : List (Except Error Q)) (shown : List (Answered Q A))
    (result : Except Error α) : Prop where
  calls : shown.map (.ok ·.1) <+: script
  failed_last : ∀ x ∈ shown.dropLast, x.2.isOk
  error_of_failed : ∀ x ∈ shown, ∀ e, x.2 = .error e → result = .error e
  isOk_iff : result.isOk ↔ shown.map (.ok ·.1) = script ∧ ∀ x ∈ shown, x.2.isOk
  stops : ∀ e, result = .error e →
    (∃ x ∈ shown, x.2 = .error e) ∨ ∃ rest, script = shown.map (.ok ·.1) ++ .error e :: rest

namespace Follows

variable {script : List (Except Error Q)} {shown : List (Answered Q A)} {result : Except Error α}

/-- At the end of the script the run ends well. -/
theorem done (a : α) : Follows (Q := Q) (A := A) [] [] (.ok a) where
  calls := List.prefix_refl _
  failed_last := by simp
  error_of_failed := by simp
  isOk_iff := by simp [Except.isOk, Except.toBool]
  stops := by simp

/-- A run stops with the error that stands in the script. -/
theorem stopped (e : Error) :
    Follows (A := A) (.error e :: script) [] (.error e : Except Error α) where
  calls := List.nil_prefix
  failed_last := by simp
  error_of_failed := by simp
  isOk_iff := by simp [Except.isOk, Except.toBool]
  stops := by
    rintro e' he
    rw [Except.error.inj he]
    exact .inr ⟨script, rfl⟩

/-- A run stops with the error of a call that fails. -/
theorem failed (q : Q) (e : Error) :
    Follows (A := A) (.ok q :: script) [⟨q, .error e⟩] (.error e : Except Error α) where
  calls := by simp
  failed_last := by simp
  error_of_failed := by
    intro x hx e' hx'
    obtain rfl := List.mem_singleton.1 hx
    exact congrArg Except.error (Except.error.inj hx')
  isOk_iff := by simp [Except.isOk, Except.toBool]
  stops := by
    rintro e' he
    rw [Except.error.inj he]
    exact .inl ⟨_, List.mem_singleton_self _, rfl⟩

/-- Behind a call that succeeds the run follows the rest of the script. -/
theorem asked {a : A q} (hrest : Follows script shown result) :
    Follows (.ok q :: script) (⟨q, .ok a⟩ :: shown) result where
  calls := by simpa using hrest.calls
  failed_last := by
    intro x hx
    -- the first call is the last one only if no other call follows
    cases shown with
    | nil => simp at hx
    | cons y shown =>
      rw [List.dropLast_cons_cons] at hx
      rcases List.mem_cons.1 hx with rfl | hx
      · rfl
      · exact hrest.failed_last x hx
  error_of_failed := by
    intro x hx e hxe
    rcases List.mem_cons.1 hx with rfl | hx
    · cases hxe
    · exact hrest.error_of_failed x hx e hxe
  isOk_iff := by
    rw [hrest.isOk_iff]
    simp [Except.isOk, Except.toBool]
  stops := by
    intro e he
    rcases hrest.stops e he with ⟨x, hx, hxe⟩ | ⟨rest, hscript⟩
    · exact .inl ⟨x, List.mem_cons_of_mem _ hx, hxe⟩
    · exact .inr ⟨rest, by rw [hscript, List.map_cons, List.cons_append]⟩

/-- A run that stops early goes no further where the script is longer. -/
theorem longer {e : Error} (h : Follows script shown (.error e : Except Error α))
    (script' : List (Except Error Q)) :
    Follows (script ++ script') shown (.error e : Except Error β) where
  calls := h.calls.trans (List.prefix_append _ _)
  failed_last := h.failed_last
  error_of_failed := by
    intro x hx e' he'
    exact congrArg Except.error (Except.error.inj (h.error_of_failed x hx e' he'))
  isOk_iff := by
    refine iff_of_false (by simp [Except.isOk, Except.toBool]) ?_
    rintro ⟨hcalls, hall⟩
    -- a call has failed, or the error stands in the script, and it is none of the calls
    rcases h.stops e rfl with ⟨x, hx, hxe⟩ | ⟨rest, hscript⟩
    · have hok := hall x hx
      rw [hxe] at hok
      cases hok
    · rw [hscript, List.append_assoc, List.self_eq_append_right] at hcalls
      cases hcalls
  stops := by
    intro e' he
    rcases h.stops e' (congrArg Except.error (Except.error.inj he)) with hx | ⟨rest, hscript⟩
    · exact .inl hx
    · exact .inr ⟨rest ++ script', by rw [hscript, List.append_assoc, List.cons_append]⟩

/-- Behind a run that ends well another one follows its own script. -/
theorem append {a : α} {script' : List (Except Error Q)} {shown' : List (Answered Q A)}
    {result' : Except Error β} (h : Follows script shown (.ok a : Except Error α))
    (h' : Follows script' shown' result') :
    Follows (script ++ script') (shown ++ shown') result' := by
  obtain ⟨hcalls, hall⟩ := h.isOk_iff.1 rfl
  have hmap : (shown ++ shown').map (fun x => (.ok x.1 : Except Error Q)) =
      script ++ shown'.map (fun x => .ok x.1) := by
    rw [List.map_append, hcalls]
  refine ⟨?_, ?_, ?_, ?_, fun e he => ?_⟩
  · rw [hmap]
    exact (List.prefix_append_right_inj script).2 h'.calls
  · intro x hx
    -- the last call is one of the second run, unless that makes none
    by_cases hnil : shown' = []
    · rw [hnil, List.append_nil] at hx
      exact hall x (List.dropLast_subset _ hx)
    · rw [List.dropLast_append_of_ne_nil hnil] at hx
      exact (List.mem_append.1 hx).elim (hall x) (h'.failed_last x)
  · intro x hx e he
    rcases List.mem_append.1 hx with hx | hx
    · have hok := hall x hx
      rw [he] at hok
      simp [Except.isOk, Except.toBool] at hok
    · exact h'.error_of_failed x hx e he
  · rw [hmap, List.append_cancel_left_eq, h'.isOk_iff]
    refine and_congr_right fun _ => ⟨fun hrest x hx => ?_, fun hboth x hx => ?_⟩
    · exact (List.mem_append.1 hx).elim (hall x) (hrest x)
    · exact hboth x (List.mem_append_right _ hx)
  · rcases h'.stops e he with ⟨x, hx, hxe⟩ | ⟨rest, hscript⟩
    · exact .inl ⟨x, List.mem_append_right _ hx, hxe⟩
    · exact .inr ⟨rest, by rw [hmap, hscript, List.append_assoc]⟩

end Follows

/-- A plan whose first call stands first in a script follows the script, if it does so behind every
answer. -/
theorem follows_ask {script : List (Except Error Q)}
    (hnext : ∀ a t, h q s = (.ok a, t) →
      Follows script ((next a).calls h t) ((next a).run h t).1) :
    Follows (.ok q :: script) ((ask q next).calls h s) ((ask q next).run h s).1 := by
  rcases hq : h q s with ⟨e | a, t⟩
  · rw [calls_ask_error hq, run_ask_error hq]
    exact .failed q e
  · rw [calls_ask_ok hq, run_ask_ok hq]
    exact (hnext a t hq).asked

/-- A single call follows itself; it has one answer, and that is what the plan of the call gives. -/
theorem call_follows (q : Q) [hne : Nonempty (A q)] (h : Handler Q A σ) (s : σ) :
    ∃ a, Answers ((call q : Plan Q A (A q)).calls h s) q a ∧
      Follows [.ok q] ((call q : Plan Q A (A q)).calls h s) ((call q : Plan Q A (A q)).run h s).1 ∧
      ∀ a' t, (call q : Plan Q A (A q)).run h s = (.ok a', t) → a' = a := by
  have hfollows : Follows [.ok q] ((call q : Plan Q A (A q)).calls h s)
      ((call q : Plan Q A (A q)).run h s).1 := follows_ask fun a _ _ => .done a
  rcases hq : h q s with ⟨e | a, t⟩
  · -- a call that failed was not answered, and any value will do
    obtain ⟨a⟩ := hne
    refine ⟨a, ?_, hfollows, ?_⟩
    · rw [call, calls_ask_error hq]
      simp [Answers]
    · rw [call, run_ask_error hq]
      simp
  · refine ⟨a, ?_, hfollows, ?_⟩
    · rw [call, calls_ask_ok hq]
      simp [Answers]
    · rw [call, run_ask_ok hq]
      simp [eq_comm]

/-- A plan that goes on follows the script of its first part and then that of the rest. -/
theorem follows_bind {script script' : List (Except Error Q)} {p : Plan Q A α} {f : α → Plan Q A β}
    (hp : Follows script (p.calls h s) (p.run h s).1)
    (hf : ∀ a t, p.run h s = (.ok a, t) →
      Follows script' ((f a).calls h t) ((f a).run h t).1) :
    Follows (script ++ script') ((p.bind f).calls h s) ((p.bind f).run h s).1 := by
  rcases hrun : p.run h s with ⟨e | a, t⟩
  · rw [hrun] at hp
    rw [calls_bind_error hrun, run_bind_error hrun]
    exact hp.longer script'
  · rw [hrun] at hp
    rw [calls_bind_ok hrun, run_bind_ok hrun]
    exact hp.append (hf a t hrun)

/-- A plan whose result is made of that of another one follows the same script. -/
theorem follows_bind_done {script : List (Except Error Q)} {p : Plan Q A α} (f : α → β)
    (hp : Follows script (p.calls h s) (p.run h s).1) :
    Follows script ((p.bind fun a => done (.ok (f a))).calls h s)
      ((p.bind fun a => done (.ok (f a))).run h s).1 := by
  have hfollows := follows_bind (f := fun a => done (.ok (f a))) hp fun a _ _ => .done (f a)
  rwa [List.append_nil] at hfollows

/-! ### Two runs -/

/-- Two results are the same error, or values in a relation. -/
inductive Same (D : α → β → Prop) : Except Error α → Except Error β → Prop
  | ok {a : α} {b : β} (h : D a b) : Same D (.ok a) (.ok b)
  | error (e : Error) : Same D (.error e) (.error e)

theorem same_eq_iff {x y : Except Error α} : Same (· = ·) x y ↔ x = y := by
  constructor
  · rintro (h | -)
    · rw [h]
    · rfl
  · rintro rfl
    cases x with
    | error e => exact .error e
    | ok a => exact .ok rfl

section Matched

variable {τ δ : Type} {h' : Handler Q A τ} {t' : τ} {R : σ → τ → Prop} {D : α → β → Prop}

/-- Two runs end with the same error, or with values in a relation, and their last states are in a
relation, too. -/
structure Matched (D : α → β → Prop) (R : σ → τ → Prop) (x : Except Error α × σ)
    (y : Except Error β × τ) : Prop where
  result : Same D x.1 y.1
  state : R x.2 y.2

theorem matched_done {x : Except Error α} {y : Except Error β} (hx : Same D x y) (hs : R s t') :
    Matched D R ((done x : Plan Q A α).run h s) ((done y : Plan Q A β).run h' t') := ⟨hx, hs⟩

theorem matched_call (h : Handler Q A σ) (h' : Handler Q A τ) (q : Q) {D : A q → A q → Prop}
    (hq : Matched D R (h q s) (h' q t')) :
    Matched D R ((call q).run h s) ((call q).run h' t') := by
  rwa [run_call, run_call]

/-- Plans that go on with one value match if they do behind it. -/
theorem matched_ofExcept_bind {x : Except Error γ} {f : γ → Plan Q A α} {f' : γ → Plan Q A β}
    (hs : R s t') (hf : ∀ c, x = .ok c → Matched D R ((f c).run h s) ((f' c).run h' t')) :
    Matched D R (((ofExcept x).bind f).run h s) (((ofExcept x).bind f').run h' t') := by
  cases x with
  | error e => exact ⟨.error e, hs⟩
  | ok c => exact hf c rfl

/-- Plans that go on match if their first parts do, and the rest behind values and states in
relation. -/
theorem Matched.bind {D' : γ → δ → Prop} {p : Plan Q A α} {p' : Plan Q A β} {f : α → Plan Q A γ}
    {f' : β → Plan Q A δ} (hp : Matched D R (p.run h s) (p'.run h' t'))
    (hf : ∀ a b s t, D a b → R s t → Matched D' R ((f a).run h s) ((f' b).run h' t)) :
    Matched D' R ((p.bind f).run h s) ((p'.bind f').run h' t') := by
  rw [run_bind, run_bind]
  revert hp
  rcases p.run h s with ⟨e | a, s₁⟩ <;> rcases p'.run h' t' with ⟨e' | b, t₁⟩ <;>
    rintro ⟨hresult, hstate⟩ <;> cases hresult
  · exact ⟨.error _, hstate⟩
  · exact hf a b s₁ t₁ (by assumption) hstate

end Matched

end DeploySync.Plan
