import DeploySync.Proofs.Sync.History
import Mathlib.Logic.Function.Basic

/-!
# Processes that share a bucket

Several processes run their plans side by side on one bucket, each with files and outputs of its
own. They take turns as a schedule says: in its turn a process makes its next call, which is
answered before any other call is made.

## Main definitions

* `Plan.resume` — what is left of a plan behind the answer to its first call
* `Sync.Processes` — the processes, with what is left of their plans
* `Sync.Processes.turn`, `Sync.Processes.run` — one turn, and the turns of a schedule
* `Sync.bucketCalls` — the calls on the bucket that one process made

## Main results

* `Sync.Processes.run_invariant` — what every turn keeps, a schedule keeps
* `Sync.Processes.isDone_run` — a process that got turns enough is done
-/

namespace DeploySync

namespace Plan

variable {Q : Type} {A : Q → Type} {α : Type} {q : Q}

/-- What is left of a plan behind the answer to its first call. -/
def resume (next : A q → Plan Q A α) : Except Error (A q) → Plan Q A α
  | .ok a => next a
  | .error e => done (.error e)

theorem Within.resume {next : A q → Plan Q A α} {n : Nat} (hp : (ask q next).Within (n + 1))
    (answer : Except Error (A q)) : (resume next answer).Within n := by
  cases answer with
  | ok a => exact hp a
  | error e => trivial

end Plan

/-- The world with the bucket that another world holds. -/
def World.sharing (w w' : World) : World := { w with holder := w'.holder }

namespace Sync

open World (Shown)

/-- Processes that share a bucket: the world of each, and what is left of its plan. -/
structure Processes (ι : Type) (α : ι → Type) where
  worlds : ι → World
  rest : (i : ι) → Plan (α i)

variable {ι : Type} [DecidableEq ι] {α : ι → Type} {s : Processes ι α} {i j : ι}
variable {trace : List (ι × Shown)}

namespace Processes

/-- A process makes its next call, if it has one left. What the call makes of the bucket, every
process finds; the files and the outputs are those of the process alone. -/
def turn (s : Processes ι α) (i : ι) : Processes ι α × List (ι × Shown) :=
  match s.rest i with
  | .done _ => (s, [])
  | .ask q next =>
    let answered := World.perform q (s.worlds i)
    (⟨fun j => if j = i then answered.2 else (s.worlds j).sharing answered.2,
      Function.update s.rest i (Plan.resume next answered.1)⟩, [(i, ⟨q, answered.1⟩)])

/-- The processes take turns; gives the calls in the order in which they were made. -/
def run : List ι → Processes ι α → Processes ι α × List (ι × Shown)
  | [], s => (s, [])
  | i :: schedule, s =>
    let first := s.turn i
    let later := run schedule first.1
    (later.1, first.2 ++ later.2)

theorem turn_done {result : Except Error (α i)} (hrest : s.rest i = .done result) :
    s.turn i = (s, []) := by
  rw [turn, hrest]

theorem turn_ask {q : Call} {next : q.Answer → Plan (α i)} (hrest : s.rest i = .ask q next) :
    s.turn i =
      (⟨fun j => if j = i then (World.perform q (s.worlds i)).2
          else (s.worlds j).sharing (World.perform q (s.worlds i)).2,
        Function.update s.rest i (Plan.resume next (World.perform q (s.worlds i)).1)⟩,
        [(i, ⟨q, (World.perform q (s.worlds i)).1⟩)]) := by
  rw [turn, hrest]

theorem rest_turn {q : Call} {next : q.Answer → Plan (α i)} (hrest : s.rest i = .ask q next) :
    (s.turn i).1.rest i = Plan.resume next (World.perform q (s.worlds i)).1 := by
  rw [turn_ask hrest]
  exact Function.update_self _ _ _

/-- The turn of a process leaves the plans of the others. -/
theorem rest_turn_of_ne (hne : j ≠ i) : (s.turn i).1.rest j = s.rest j := by
  cases hrest : s.rest i with
  | done result => rw [turn_done hrest]
  | ask q next =>
    rw [turn_ask hrest]
    exact Function.update_of_ne hne _ _

/-- What every turn keeps, a schedule keeps. -/
theorem run_invariant {I : Processes ι α → List (ι × Shown) → Prop}
    (hturn : ∀ s trace i, I s trace → I (s.turn i).1 (trace ++ (s.turn i).2)) (schedule : List ι)
    (hs : I s trace) : I (run schedule s).1 (trace ++ (run schedule s).2) := by
  induction schedule generalizing s trace with
  | nil => rwa [run, List.append_nil]
  | cons i schedule ih =>
    rw [run, ← List.append_assoc]
    exact ih (hturn s trace i hs)

/-! ### The end of a run -/

theorem within_turn {n : Nat} (hrest : (s.rest j).Within n) (i : ι) :
    ((s.turn i).1.rest j).Within (n - [i].count j) := by
  by_cases hij : j = i
  · subst hij
    rw [List.count_singleton_self]
    cases hplan : s.rest j with
    | done result =>
      rw [turn_done hplan, hplan]
      trivial
    | ask q next =>
      rw [rest_turn hplan]
      rw [hplan] at hrest
      cases n with
      | zero => exact hrest.elim
      | succ n => exact hrest.resume _
  · rw [rest_turn_of_ne hij, List.count_singleton, if_neg (by simpa using Ne.symm hij)]
    exact hrest

/-- A turn of a process takes one call off its plan. -/
theorem within_run {n : Nat} (hrest : (s.rest j).Within n) (schedule : List ι) :
    ((run schedule s).1.rest j).Within (n - schedule.count j) := by
  induction schedule generalizing s n with
  | nil => exact hrest
  | cons i schedule ih =>
    have hturn := ih (within_turn hrest i)
    rwa [Nat.sub_sub, ← List.count_append, List.singleton_append] at hturn

/-- A process that got turns enough is done. -/
theorem isDone_run {n : Nat} (hrest : (s.rest j).Within n) {schedule : List ι}
    (hcount : n ≤ schedule.count j) : ((run schedule s).1.rest j).isDone := by
  refine Plan.Within.isDone ?_
  have hwithin := within_run hrest schedule
  rwa [Nat.sub_eq_zero_of_le hcount] at hwithin

end Processes

/-! ### The calls of one process -/

/-- The call is one on the bucket. -/
def Call.isOnBucket : Call → Bool
  | .bucket _ => true
  | _ => false

/-- The calls on the bucket that one process made. -/
def bucketCalls (i : ι) (trace : List (ι × Shown)) : List Shown :=
  (trace.filter fun x => x.1 = i && x.2.1.isOnBucket).map Prod.snd

theorem bucketCalls_append (i : ι) (trace trace' : List (ι × Shown)) :
    bucketCalls i (trace ++ trace') = bucketCalls i trace ++ bucketCalls i trace' := by
  rw [bucketCalls, List.filter_append, List.map_append]
  rfl

theorem bucketCalls_self (i : ι) (x : Shown) :
    bucketCalls i [(i, x)] = if x.1.isOnBucket then [x] else [] := by
  rw [bucketCalls, List.filter_singleton]
  cases x.1.isOnBucket <;> simp

theorem bucketCalls_of_ne (hne : j ≠ i) (x : Shown) : bucketCalls i [(j, x)] = [] := by
  rw [bucketCalls, List.filter_singleton]
  simp [hne]

theorem mem_bucketCalls {c : Bucket.Call} {answer : Except Error c.Answer} :
    ⟨.bucket c, answer⟩ ∈ bucketCalls i trace ↔ (i, ⟨.bucket c, answer⟩) ∈ trace := by
  simp [bucketCalls, Call.isOnBucket]

end Sync

end DeploySync
