import DeploySync.Proofs.Cli.Command
import DeploySync.Proofs.Plan
import DeploySync.Tool.Machine

/-!
# What the metadata tool decides

The flags of the metadata tool exclude each other, so that an accepted command line asks for one
action at most. That action is taken, unless its workspace is empty. Where no action is taken, the
tool ends before it asks for anything, the settings included.

## Main definitions

* `Tool.MetadataAction.flag` — the flag that asks for an action
* `Tool.MetadataArguments.asked` — the actions that are asked for
* `Tool.MetadataArguments.Decides` — what becomes of them
* `Tool.Idle` — the tool ends without asking for anything
* `Tool.Settled` — what becomes of a command line of the metadata tool

## Main results

* `Tool.parse_metadata_eq_ok_iff` — the command lines that are accepted
* `Tool.MetadataArguments.decides_of_length` — what the tool is to do for one action, or for none
* `Tool.metadata_settled` — what becomes of every command line that is accepted
-/

namespace DeploySync.Tool

variable {arguments : List String} {name : String} {g : Cli.Given}

/-! ### Flags -/

theorem hasPlainNames_metadata : metadata.command.HasPlainNames := by
  unfold Cli.Command.HasPlainNames
  decide

theorem flags_metadata : ∀ f ∈ metadata.command.flags,
    (f.name = "upload" ∧ f.value? = none) ∨
      ((f.name = "download" ∨ f.name = "set-env") ∧ f.value?.isSome) := by
  decide

/-- Only the flag for uploads stands without a value. -/
theorem switches_metadata_iff : metadata.command.Switches name ↔ name = "upload" := by
  constructor
  · rintro ⟨hhelp, f, hflag, hvalue⟩
    obtain ⟨rfl, hmem | rfl⟩ := Cli.Command.of_flag? hflag
    · obtain ⟨hname, -⟩ | ⟨-, htakes⟩ := flags_metadata f hmem
      · exact hname
      · rw [hvalue] at htakes
        cases htakes
    · exact absurd rfl hhelp
  · rintro rfl
    exact ⟨by decide, _, rfl, rfl⟩

/-- The other flags take a workspace. -/
theorem takes_metadata_iff :
    metadata.command.Takes name ↔ name = "download" ∨ name = "set-env" := by
  constructor
  · rintro ⟨f, what, hflag, hvalue⟩
    obtain ⟨rfl, hmem | rfl⟩ := Cli.Command.of_flag? hflag
    · obtain ⟨-, hnone⟩ | ⟨hname, -⟩ := flags_metadata f hmem
      · rw [hvalue] at hnone
        cases hnone
      · exact hname
    · cases hvalue
  · rintro (rfl | rfl)
    · exact ⟨_, _, rfl, rfl⟩
    · exact ⟨_, _, rfl, rfl⟩

/-- A command line is accepted exactly if it spells at most one flag. -/
theorem parse_metadata_eq_ok_iff :
    metadata.command.parse arguments = .ok g ↔
      metadata.command.Spells arguments g ∧ g.length ≤ 1 :=
  Cli.Command.parse_eq_ok_iff_of_exclusive hasPlainNames_metadata (by decide) (by decide)

namespace MetadataAction

/-- The flag that asks for the action, with the workspace, if the action is about one. -/
def flag : MetadataAction → String × Option String
  | .upload => ("upload", none)
  | .download workspace => ("download", some workspace)
  | .setEnv workspace => ("set-env", some workspace)

/-- The workspace of the action is empty. -/
def IsUnset (action : MetadataAction) : Prop := action.flag.2 = some ""

instance (action : MetadataAction) : Decidable action.IsUnset :=
  inferInstanceAs (Decidable (action.flag.2 = some ""))

/-- The action is asked for without a workspace that its flag takes. -/
theorem isUnset_iff {action : MetadataAction} :
    action.IsUnset ↔ action = .download "" ∨ action = .setEnv "" := by
  cases action <;> simp [IsUnset, flag]

end MetadataAction

/-- What is spelled are flags that ask for actions. -/
theorem exists_asked (hspells : metadata.command.Spells arguments g) :
    ∃ asked : List MetadataAction, g = asked.map MetadataAction.flag := by
  induction hspells with
  | nothing => exact ⟨[], rfl⟩
  | dashes => exact ⟨[], rfl⟩
  | switch hname hspells ih =>
    obtain ⟨asked, rfl⟩ := ih
    obtain rfl := switches_metadata_iff.1 hname
    exact ⟨.upload :: asked, rfl⟩
  | attached hname hspells ih =>
    obtain ⟨asked, rfl⟩ := ih
    obtain rfl | rfl := takes_metadata_iff.1 hname
    · exact ⟨.download _ :: asked, rfl⟩
    · exact ⟨.setEnv _ :: asked, rfl⟩
  | separate hname hvalue hspells ih =>
    obtain ⟨asked, rfl⟩ := ih
    obtain rfl | rfl := takes_metadata_iff.1 hname
    · exact ⟨.download _ :: asked, rfl⟩
    · exact ⟨.setEnv _ :: asked, rfl⟩

/-- The command lines that ask for an action, but have an empty workspace. -/
theorem spells_unset_iff :
    (∃ action : MetadataAction, action.IsUnset ∧
      metadata.command.Spells arguments [action.flag]) ↔
    ∃ name ending, (name = "download" ∨ name = "set-env") ∧ (ending = [] ∨ ending = ["--"]) ∧
      (arguments = ("--" ++ name ++ "=") :: ending ∨
        arguments = ("--" ++ name) :: "" :: ending) := by
  constructor
  · rintro ⟨action, hunset, hspells⟩
    obtain rfl | rfl := MetadataAction.isUnset_iff.1 hunset
    · have htakes := takes_metadata_iff.2 (Or.inl rfl)
      obtain ⟨ending, harguments⟩ := (Cli.Command.spells_empty_iff htakes).1 hspells
      exact ⟨"download", ending, Or.inl rfl, harguments⟩
    · have htakes := takes_metadata_iff.2 (Or.inr rfl)
      obtain ⟨ending, harguments⟩ := (Cli.Command.spells_empty_iff htakes).1 hspells
      exact ⟨"set-env", ending, Or.inr rfl, harguments⟩
  · rintro ⟨name, ending, hname, harguments⟩
    have htakes := takes_metadata_iff.2 hname
    have hspells := (Cli.Command.spells_empty_iff htakes).2 ⟨ending, harguments⟩
    obtain rfl | rfl := hname
    · exact ⟨.download "", rfl, hspells⟩
    · exact ⟨.setEnv "", rfl, hspells⟩

/-! ### The action -/

namespace MetadataArguments

variable {a : MetadataArguments} {action : MetadataAction}

/-- The actions that are asked for. -/
def asked (a : MetadataArguments) : List MetadataAction :=
  (if a.upload then [.upload] else []) ++ (a.download.map MetadataAction.download).toList ++
    (a.setEnv.map MetadataAction.setEnv).toList

/-- At most one action is asked for. The tool is to take it, unless its workspace is empty, which
is refused; it has nothing to do only if nothing is asked for. -/
structure Decides (a : MetadataArguments) : Prop where
  at_most_one : a.asked.length ≤ 1
  nothing_iff : a.action = .ok none ↔ a.asked = []
  action_iff : ∀ action, a.action = .ok (some action) ↔ a.asked = [action] ∧ ¬ action.IsUnset
  error_iff : ∀ e, a.action = .error e ↔
    e = .validation .workspaceNotSet ∧ ∃ action, a.asked = [action] ∧ action.IsUnset

theorem action_of_asked_nil (hasked : a.asked = []) : a.action = .ok none := by
  obtain ⟨_ | _, _ | w, _ | v⟩ := a
  · exact action_nothing
  all_goals cases hasked

theorem action_of_asked_singleton (hasked : a.asked = [action]) :
    a.action = if action.IsUnset then .error (.validation .workspaceNotSet)
      else .ok (some action) := by
  obtain ⟨_ | _, _ | w, _ | v⟩ := a
  case false.none.none => cases hasked
  case false.none.some =>
    cases hasked
    simp [action_setEnv, MetadataAction.isUnset_iff]
  case false.some.none =>
    cases hasked
    simp [action_download, MetadataAction.isUnset_iff]
  case true.none.none =>
    cases hasked
    simp [action_upload, MetadataAction.isUnset_iff]
  -- otherwise more than one action is asked for
  all_goals cases hasked

/-- What the tool is to do where at most one action is asked for. -/
theorem decides_of_length (hlength : a.asked.length ≤ 1) : a.Decides := by
  rcases hasked : a.asked with _ | ⟨action, _ | ⟨second, rest⟩⟩
  · have haction := action_of_asked_nil hasked
    refine ⟨hlength, ?_, fun act => ?_, fun e => ?_⟩
    · simp [haction, hasked]
    · simp [haction, hasked]
    · simp [haction, hasked]
  · have haction := action_of_asked_singleton hasked
    by_cases hunset : action.IsUnset
    · -- the workspace behind its flag is empty, which is an error and no action
      rw [if_pos hunset] at haction
      refine ⟨hlength, ?_, fun act => ?_, fun e => ?_⟩
      · simp [haction, hasked]
      · rw [haction, hasked, List.singleton_inj]
        refine iff_of_false nofun ?_
        rintro ⟨rfl, hset⟩
        exact hset hunset
      · simp [haction, hasked, hunset, eq_comm]
    · rw [if_neg hunset] at haction
      refine ⟨hlength, ?_, fun act => ?_, fun e => ?_⟩
      · simp [haction, hasked]
      · rw [haction, hasked, List.singleton_inj, Except.ok.injEq, Option.some.injEq]
        refine ⟨?_, fun h => h.1⟩
        rintro rfl
        exact ⟨rfl, hunset⟩
      · simp [haction, hasked, hunset]
  · rw [hasked] at hlength
    simp at hlength

theorem asked_flag (action : MetadataAction) : (ofGiven [action.flag]).asked = [action] := by
  cases action <;> rfl

/-- The flags of an accepted command line ask for what they say. -/
theorem map_flag_asked (hparse : metadata.command.parse arguments = .ok g) :
    (ofGiven g).asked.map MetadataAction.flag = g := by
  obtain ⟨hspells, hlength⟩ := parse_metadata_eq_ok_iff.1 hparse
  obtain ⟨asked, rfl⟩ := exists_asked hspells
  rcases asked with _ | ⟨action, _ | ⟨second, rest⟩⟩
  · rfl
  · rw [List.map_singleton, asked_flag, List.map_singleton]
  · simp at hlength

theorem plan_of_action_none (haction : a.action = .ok none) : a.plan = .done (.ok ()) := by
  rw [MetadataArguments.plan, haction]
  rfl

theorem plan_of_action_error {e : Error} (haction : a.action = .error e) :
    a.plan = .done (.error e) := by
  rw [MetadataArguments.plan, haction]
  rfl

/-- Before an action is taken, the variables are asked for. -/
theorem plan_of_action_some (haction : a.action = .ok (some action)) :
    ∃ next, a.plan = .ask .environment next := by
  rw [MetadataArguments.plan, haction]
  exact ⟨_, rfl⟩

end MetadataArguments

/-! ### Runs -/

/-- The calls of a tool that runs on a command line. -/
def calls {σ : Type} (h : Plan.Handler Call Call.Answer σ) (t : Tool) (arguments : List String)
    (s : σ) : List (Plan.Answered Call Call.Answer) :=
  match t.command.parse arguments with
  | .ok g => (t.plan g).calls h s
  | .error _ => []

/-- The tool ends with the report and asks for nothing: not for the settings, a process, the bucket
or a file, whatever would be answered. A machine is left as it is. -/
structure Idle (t : Tool) (arguments : List String) (report : Report) : Prop where
  calls_eq : ∀ {σ : Type} (h : Plan.Handler Call Call.Answer σ) (s : σ),
    t.calls h arguments s = []
  run_eq : ∀ {σ : Type} (h : Plan.Handler Call Call.Answer σ) (s : σ),
    t.run h arguments s = (report, s)
  machine_eq : ∀ m : Machine, m.run t arguments = (report, m)

theorem idle_of_plan {t : Tool} {result : Except Error Unit}
    (hparse : t.command.parse arguments = .ok g) (hplan : t.plan g = .done result) :
    Idle t arguments (.ofResult result) := by
  have hrun {σ : Type} (h : Plan.Handler Call Call.Answer σ) (s : σ) :
      t.run h arguments s = (.ofResult result, s) := by
    rw [Tool.run, hparse]
    dsimp only
    rw [hplan, Plan.run_done]
  refine ⟨fun h s => ?_, hrun, fun m => hrun _ m⟩
  rw [Tool.calls, hparse]
  dsimp only
  rw [hplan, Plan.calls_done]

/-- What becomes of a command line of the metadata tool, with the flags that it spells. It names one
action at most. If it names none, or one without its workspace, the tool ends at once. -/
structure Settled (arguments : List String) (g : Cli.Given) : Prop where
  asked_eq : (MetadataArguments.ofGiven g).asked.map MetadataAction.flag = g
  decides : (MetadataArguments.ofGiven g).Decides
  nothing_iff : (MetadataArguments.ofGiven g).action = .ok none ↔
    arguments = [] ∨ arguments = ["--"]
  /-- The workspace is empty however it is written. -/
  unset_iff : (∃ e, (MetadataArguments.ofGiven g).action = .error e) ↔
    ∃ name ending, (name = "download" ∨ name = "set-env") ∧ (ending = [] ∨ ending = ["--"]) ∧
      (arguments = ("--" ++ name ++ "=") :: ending ∨ arguments = ("--" ++ name) :: "" :: ending)
  message_eq : ∀ cause, (MetadataArguments.ofGiven g).action = .error (.validation cause) →
    cause.message = "Workspace is not set"
  idle : (MetadataArguments.ofGiven g).action = .ok none → Idle .metadata arguments {}
  refused : ∀ e, (MetadataArguments.ofGiven g).action = .error e →
    Idle .metadata arguments { exitCode := 64, error? := some e }
  /-- Only before an action are the variables read, and they are read first. -/
  proceeds : ∀ action, (MetadataArguments.ofGiven g).action = .ok (some action) →
    ∀ {σ : Type} (h : Plan.Handler Call Call.Answer σ) (s : σ), ∃ rest,
      metadata.calls h arguments s = ⟨.environment, (h .environment s).1⟩ :: rest

/-- Every accepted command line of the metadata tool is settled by the action that it asks for. The
accepted ones spell at most one flag. -/
theorem metadata_settled (arguments : List String) :
    (∀ g, metadata.command.parse arguments = .ok g ↔
      metadata.command.Spells arguments g ∧ g.length ≤ 1) ∧
    ∀ g, metadata.command.parse arguments = .ok g → Settled arguments g := by
  refine ⟨fun g => parse_metadata_eq_ok_iff, fun g hparse => ?_⟩
  have hasked := MetadataArguments.map_flag_asked hparse
  obtain ⟨hspells, hlength⟩ := parse_metadata_eq_ok_iff.1 hparse
  have hdecides : (MetadataArguments.ofGiven g).Decides := by
    apply MetadataArguments.decides_of_length
    rwa [← hasked, List.length_map] at hlength
  -- the arguments spell nothing else
  have hunique {g' : Cli.Given} (hspells' : metadata.command.Spells arguments g')
      (hlength' : g'.length ≤ 1) : g = g' :=
    Except.ok.inj (hparse.symm.trans (parse_metadata_eq_ok_iff.2 ⟨hspells', hlength'⟩))
  refine ⟨hasked, hdecides, ?nothing, ?unset, ?message, ?idle, ?refused, ?proceeds⟩
  case nothing =>
    rw [hdecides.nothing_iff, ← Cli.Command.spells_nil_iff (c := metadata.command),
      ← List.map_eq_nil_iff (f := MetadataAction.flag), hasked]
    constructor
    · rintro rfl
      exact hspells
    · intro hnothing
      exact hunique hnothing (Nat.zero_le 1)
  case unset =>
    rw [← spells_unset_iff]
    constructor
    · rintro ⟨e, he⟩
      obtain ⟨-, action, hone, hunset⟩ := (hdecides.error_iff e).1 he
      rw [hone, List.map_singleton] at hasked
      subst hasked
      exact ⟨action, hunset, hspells⟩
    · rintro ⟨action, hunset, hspells'⟩
      obtain rfl := hunique hspells' (Nat.le_refl 1)
      have hone := MetadataArguments.asked_flag action
      exact ⟨_, (hdecides.error_iff _).2 ⟨rfl, action, hone, hunset⟩⟩
  case message =>
    intro cause hcause
    obtain ⟨hvalidation, -⟩ := (hdecides.error_iff _).1 hcause
    cases hvalidation
    rfl
  case idle =>
    intro haction
    exact idle_of_plan hparse (MetadataArguments.plan_of_action_none haction)
  case refused =>
    intro e haction
    obtain ⟨rfl, -⟩ := (hdecides.error_iff e).1 haction
    exact idle_of_plan hparse (MetadataArguments.plan_of_action_error haction)
  case proceeds =>
    intro action haction σ h s
    obtain ⟨next, hnext⟩ := MetadataArguments.plan_of_action_some haction
    obtain ⟨rest, hrest⟩ := Plan.exists_calls_ask h .environment next s
    refine ⟨rest, ?_⟩
    rw [Tool.calls, hparse]
    dsimp only [Tool.plan]
    rw [hnext, hrest]

/-- A shell passes an unset variable. -/
example : metadata.run (fun _ n => (.error (.validation .emptyKey), n + 1)) ["--set-env="] 0 =
    ({ exitCode := 64, error? := some (.validation .workspaceNotSet) }, 0) := by
  decide

end DeploySync.Tool
