import DeploySync.Proofs.Sync.Steps
import DeploySync.Sync.CommonVars
import DeploySync.Sync.Metadata

/-!
# Reading

What a synchronization reads does not depend on the bucket, so that it can be read again whatever
was done to the bucket in between.

## Main definitions

* `Sync.IsReading` — the calls that only read
* `Sync.loaded`, `Sync.document` — the document in a file

## Main results

* `Sync.run_reading` — where the same can be read, reading gives the same and changes nothing
* `Sync.load_ok`, `Sync.load_error` — loading a document is a single call
-/

namespace DeploySync.Sync

open DeploySync.Plan (done Handler)

variable {σ α : Type} {w w' : World} {b : MemoryBucket}

/-- A call that only reads. -/
def IsReading : Call → Prop
  | .output .. => True
  | .readFile _ => True
  | _ => False

theorem asks_ofExcept {P : Call → Prop} (result : Except Error α) :
    Plan.Asks P (Plan.ofExcept result : Plan α) :=
  Plan.asks_done result

theorem asks_readText {P : Call → Prop} {p : Path} (hp : P (.readFile p)) :
    Plan.Asks P (readText p) :=
  ⟨hp, fun bytes => asks_ofExcept (Files.textOf p bytes)⟩

theorem asks_output {P : Call → Prop} {dir : Path} {name : String} (hq : P (.output dir name)) :
    Plan.Asks P (output dir name) := ⟨hq, fun _ => Plan.asks_done _⟩

/-- What follows the output of the node addresses. -/
def askGateway (s : MetadataSync) (nodesText : String) : Plan Metadata :=
  (Plan.ofExcept (Metadata.parseNodes nodesText)).bind fun nodes =>
    (output s.gatewayModule MetadataSync.gatewayOutput).bind fun gatewayText =>
      done (.ok ⟨nodes, Metadata.parseGateway gatewayText⟩)

theorem collect_eq (s : MetadataSync) :
    s.collect = (output s.nodesModule MetadataSync.nodesOutput).bind (askGateway s) := rfl

theorem asks_collect (s : MetadataSync) : Plan.Asks IsReading s.collect := by
  refine (asks_output trivial).bind fun nodesText => ?_
  refine (asks_ofExcept (Metadata.parseNodes nodesText)).bind fun nodes => ?_
  exact (asks_output trivial).bind fun gatewayText => Plan.asks_done _

/-- Where the same can be read, reading gives the same and changes nothing. -/
theorem answer_reading (h h' : World.Faulty) {q : Call} (hq : IsReading q) {w₁ w₂ : World}
    {b₁ b₂ : MemoryBucket} (h₁ : Carries w w₁ b₁) (h₂ : Carries w w₂ b₂) :
    (h.answer q w₁).1 = (h'.answer q w₂).1 ∧ Carries w (h.answer q w₁).2 b₁ := by
  cases q with
  | bucket c => exact hq.elim
  | output dir name =>
    rw [h.answer_output, h'.answer_output, World.perform_output]
    refine ⟨?_, ⟨h₁.holds.holder, h₁.holds.interruptions⟩, h₁.files, h₁.outputs⟩
    simp only [World.perform, h₁.outputs, h₂.outputs]
    cases w.outputs.lookup name <;> rfl
  | readFile p =>
    rw [h.answer_readFile, h'.answer_readFile, h₁.files, h₂.files]
    exact ⟨rfl, h₁⟩
  | writeFile p bytes => exact hq.elim

/-- A plan that only reads ends alike where the same can be read, and changes nothing. -/
theorem run_reading (h h' : World.Faulty) {p : Plan α} (hp : Plan.Asks IsReading p)
    {w₁ w₂ : World} {b₁ b₂ : MemoryBucket} (h₁ : Carries w w₁ b₁) (h₂ : Carries w w₂ b₂) :
    (p.run h.answer w₁).1 = (p.run h'.answer w₂).1 ∧ Carries w (p.run h.answer w₁).2 b₁ := by
  induction p generalizing w₁ w₂ with
  | done result => exact ⟨rfl, h₁⟩
  | ask q next ih =>
    obtain ⟨heq, hcarries⟩ := answer_reading h h' hp.1 h₁ h₂
    have hcarries' := (answer_reading h' h hp.1 h₂ h₁).2
    -- both answers are the same, so that both plans go on alike or stop alike
    rcases hq : h.answer q w₁ with ⟨e | a, v₁⟩ <;>
      rcases hq' : h'.answer q w₂ with ⟨e' | a', v₂⟩ <;>
      rw [hq, hq'] at heq <;> rw [hq] at hcarries <;> rw [hq'] at hcarries'
    · rw [Plan.run_ask_error hq, Plan.run_ask_error hq']
      exact ⟨congrArg Except.error (Except.error.inj heq), hcarries⟩
    · cases heq
    · cases heq
    · obtain rfl := Except.ok.inj heq
      rw [Plan.run_ask_ok hq, Plan.run_ask_ok hq']
      exact ih a (hp.2 a) hcarries hcarries'

/-- An output that the provisioning tool has is given. -/
theorem perform_output_ok {name text : String} (htext : w.outputs.lookup name = some text)
    (hw : Carries w w' b) (dir : Path) :
    ∃ w'', World.perform (.output dir name) w' = (.ok text, w'') ∧ Carries w w'' b := by
  rw [← hw.outputs] at htext
  refine ⟨{ w' with queries := (dir, name) :: w'.queries }, ?_,
    ⟨hw.holds.holder, hw.holds.interruptions⟩, hw.files, hw.outputs⟩
  rw [World.perform]
  dsimp only
  rw [htext]

/-- The metadata are what the provisioning tool knows. -/
theorem run_collect {s : MetadataSync} {nodesText gatewayText : String} {nodes : List String}
    (hw : w.Holds b) (hnodes : w.outputs.lookup MetadataSync.nodesOutput = some nodesText)
    (hgateway : w.outputs.lookup MetadataSync.gatewayOutput = some gatewayText)
    (hparse : Metadata.parseNodes nodesText = .ok nodes) :
    (w.run s.collect).1 = .ok ⟨nodes, Metadata.parseGateway gatewayText⟩ := by
  obtain ⟨w₁, hfirst, hw₁⟩ := perform_output_ok hnodes (.refl hw) s.nodesModule
  obtain ⟨w₂, hsecond, -⟩ := perform_output_ok hgateway hw₁ s.gatewayModule
  have hrun : w.run s.collect = (askGateway s nodesText).run World.perform w₁ := by
    rw [World.run, collect_eq]
    exact Plan.run_ask_ok hfirst
  rw [hrun, askGateway, hparse, Plan.ofExcept, Plan.bind_done_ok]
  exact congrArg Prod.fst (Plan.run_ask_ok hsecond)

/-! ### Loading -/

/-- The document in a file of common settings, as it was read. -/
def loaded (p : Path) (answer : Except Error ByteArray) : Except Error Document :=
  (answer.bind (Files.textOf p)).bind Document.parse

theorem readText_eq (p : Path) :
    readText p = .ask (.readFile p) fun bytes : ByteArray =>
      Plan.ofExcept (Files.textOf p bytes) := rfl

/-- Loading a document is a single call, and then the plan goes on with what was read. -/
theorem load_eq (p : Path) (next : Document → Plan α) :
    ((readText p).bind fun text =>
        (Plan.ofExcept (Document.parse text)).bind next) =
      .ask (.readFile p) fun bytes : ByteArray =>
        (Plan.ofExcept (loaded p (.ok bytes))).bind next := by
  rw [readText_eq]
  refine congrArg (Plan.ask _) (funext fun bytes : ByteArray => ?_)
  exact Plan.ofExcept_bind_bind (Files.textOf p bytes) Document.parse next

section Loading

variable {h : Handler Call Call.Answer σ} {p : Path} {answer : Except Error ByteArray} {s t : σ}

/-- A plan goes on with a document that can be loaded. -/
theorem load_ok {d : Document} (hq : h (.readFile p) s = (answer, t))
    (hd : loaded p answer = .ok d) (next : Document → Plan α) :
    let plan := (readText p).bind fun text =>
      (Plan.ofExcept (Document.parse text)).bind next
    plan.calls h s = ⟨.readFile p, answer⟩ :: (next d).calls h t ∧
      plan.run h s = (next d).run h t := by
  cases answer with
  | error e => cases hd
  | ok bytes =>
    dsimp only
    rw [load_eq]
    refine ⟨(Plan.calls_ask_ok hq).trans ?_, (Plan.run_ask_ok hq).trans ?_⟩
    · rw [hd]
      rfl
    · rw [hd]
      rfl

/-- A document that cannot be loaded is the end. -/
theorem load_error {e : Error} (hq : h (.readFile p) s = (answer, t))
    (he : loaded p answer = .error e) (next : Document → Plan α) :
    let plan := (readText p).bind fun text =>
      (Plan.ofExcept (Document.parse text)).bind next
    plan.calls h s = [⟨.readFile p, answer⟩] ∧ plan.run h s = (.error e, t) := by
  dsimp only
  rw [load_eq]
  cases answer with
  | error e' =>
    obtain rfl := Except.error.inj he
    exact ⟨Plan.calls_ask_error hq, Plan.run_ask_error hq⟩
  | ok bytes =>
    refine ⟨(Plan.calls_ask_ok hq).trans ?_, (Plan.run_ask_ok hq).trans ?_⟩
    · rw [he]
      rfl
    · rw [he]
      rfl

/-- Loading a document is a single call, and everything else comes behind it: nothing, if there is
no document. -/
theorem load_course (h : Handler Call Call.Answer σ) (p : Path) (next : Document → Plan α) (s : σ) :
    let plan := (readText p).bind fun text =>
      (Plan.ofExcept (Document.parse text)).bind next
    let answer := (h (.readFile p) s).1
    ∃ rest, plan.calls h s = ⟨.readFile p, answer⟩ :: rest ∧
      (∀ e, loaded p answer = .error e → rest = [] ∧ (plan.run h s).1 = .error e) ∧
      ∀ d, loaded p answer = .ok d →
        ∃ t, rest = (next d).calls h t ∧ (plan.run h s).1 = ((next d).run h t).1 := by
  rcases hq : h (.readFile p) s with ⟨answer, t⟩
  change Except Error ByteArray at answer
  cases hd : loaded p answer with
  | error e =>
    obtain ⟨hcalls, hrun⟩ := load_error hq hd next
    refine ⟨[], hcalls, fun e' he => ⟨rfl, ?_⟩, fun d hd' => ?_⟩
    · rw [hrun]
      exact congrArg Except.error (Except.error.inj (hd.symm.trans he))
    · rw [hd] at hd'
      cases hd'
  | ok d =>
    obtain ⟨hcalls, hrun⟩ := load_ok hq hd next
    refine ⟨_, hcalls, fun e he => ?_, fun d' hd' => ?_⟩
    · rw [hd] at he
      cases he
    · obtain rfl : d = d' := Except.ok.inj (hd.symm.trans hd')
      exact ⟨t, rfl, congrArg Prod.fst hrun⟩

end Loading

/-- What the file of a world says. -/
def document (w : World) (p : Path) : Except Error Document :=
  loaded p (Files.failed p (w.files.read p))

/-- A plan that ends well behind a document has loaded one. -/
theorem exists_document_of_run {p : Path} {next : Document → Plan α} {a : α}
    (hrun : (w.run ((readText p).bind fun text =>
      (Plan.ofExcept (Document.parse text)).bind next)).1 = .ok a) :
    ∃ d, document w p = .ok d ∧ (w.run (next d)).1 = .ok a := by
  cases hd : document w p with
  | error e =>
    have hload := (load_error (h := World.perform) (s := w) rfl hd next).2
    cases (congrArg Prod.fst hload).symm.trans hrun
  | ok d =>
    have hload := (load_ok (h := World.perform) (s := w) rfl hd next).2
    exact ⟨d, rfl, (congrArg Prod.fst hload).symm.trans hrun⟩

end DeploySync.Sync
