import DeploySync.Proofs.BlobKey

/-!
# When two keys are the same

A workspace may contain the slash that joins the parts of a key, so that a key does not tell in
which layout it was made. Read from its end it does tell the name of the file, and the component if
there is one: two keys are the same exactly if these are, and what is left of the workspaces is.

## Main definitions

* `BlobKey.IsAccepted` — a workspace that makes keys
* `BlobKey.IsPlain` — a component or the name of a file that is part of a key as it is

## Main results

* `BlobKey.workspaceFile_eq`, `BlobKey.componentFile_eq` — the keys of both layouts, written out
* `BlobKey.workspaceFile_eq_workspaceFile_iff`, `BlobKey.componentFile_eq_componentFile_iff`,
  `BlobKey.workspaceFile_eq_componentFile_iff` — when keys of one layout or of both are the same
* `BlobKey.keys_eq_iff` — all of these, and the workspaces that have keys of their own
-/

namespace DeploySync.BlobKey

variable {workspace workspace' component component' file file' : String}

/-- The workspace is the segment of a key. -/
def IsAccepted (workspace : String) : Prop := ∃ k, ofSegments [workspace] = .ok k

/-- A name without slashes that is not blank. -/
structure IsPlain (name : String) : Prop where
  slash : slash ∉ name.toList
  notBlank : Text.allBlank name.toList = false

theorem segment?_of_isAccepted (h : IsAccepted workspace) :
    segment? workspace.toList = some (stripSlashes workspace.toList) := by
  obtain ⟨k, hk⟩ := h
  cases hblank : Text.allBlank (stripSlashes workspace.toList) with
  | true =>
    have hsegment : segment? workspace.toList = none := if_pos hblank
    simp [ofSegments, ofCharSegments, hsegment] at hk
  | false => exact if_neg (by simp [hblank])

/-- A text without slashes is left as it is. -/
theorem stripSlashes_eq_self {s : List Char} (h : slash ∉ s) : stripSlashes s = s := by
  apply Text.trimBy_eq_self
  intro c hc
  rw [beq_eq_false_iff_ne]
  rintro rfl
  exact h hc

theorem IsPlain.segment? {name : String} (h : IsPlain name) :
    BlobKey.segment? name.toList = some name.toList := by
  rw [BlobKey.segment?, stripSlashes_eq_self h.slash, h.notBlank]
  rfl

/-- The key of a file of a workspace, written out. -/
theorem workspaceFile_eq (hworkspace : IsAccepted workspace) (hfile : IsPlain file) :
    workspaceFile workspace file = .ok ⟨stripSlashes workspace.toList ++ slash :: file.toList⟩ :=
  workspaceFile_eq_ok_iff.2
    ⟨_, _, segment?_of_isAccepted hworkspace, hfile.segment?, rfl⟩

/-- The key of a file of a component is that of a file of a workspace which ends with the
component. -/
theorem componentFile_eq (hworkspace : IsAccepted workspace) (hcomponent : IsPlain component)
    (hfile : IsPlain file) :
    componentFile workspace component file =
      .ok ⟨(stripSlashes workspace.toList ++ slash :: component.toList) ++
        slash :: file.toList⟩ := by
  rw [List.append_assoc]
  exact componentFile_eq_ok_iff.2
    ⟨_, _, _, segment?_of_isAccepted hworkspace, hcomponent.segment?, hfile.segment?, rfl⟩

/-- The part of a key before the name of its file, and that name, can be read off the key. -/
theorem ok_eq_ok_iff {before before' : List Char} (hfile : IsPlain file) (hfile' : IsPlain file') :
    (Except.ok ⟨before ++ slash :: file.toList⟩ : Except Error BlobKey) =
        .ok ⟨before' ++ slash :: file'.toList⟩ ↔ file = file' ∧ before = before' := by
  rw [Except.ok.injEq, BlobKey.mk.injEq,
    Text.append_cons_inj_of_notMem hfile.slash hfile'.slash, String.toList_inj, and_comm]

section Layouts

variable (hworkspace : IsAccepted workspace) (hworkspace' : IsAccepted workspace')
variable (hcomponent : IsPlain component) (hcomponent' : IsPlain component')
variable (hfile : IsPlain file) (hfile' : IsPlain file')

include hworkspace hworkspace' hfile hfile'

theorem workspaceFile_eq_workspaceFile_iff :
    workspaceFile workspace file = workspaceFile workspace' file' ↔
      file = file' ∧ stripSlashes workspace.toList = stripSlashes workspace'.toList := by
  rw [workspaceFile_eq hworkspace hfile, workspaceFile_eq hworkspace' hfile',
    ok_eq_ok_iff hfile hfile']

include hcomponent'

theorem workspaceFile_eq_componentFile_iff :
    workspaceFile workspace file = componentFile workspace' component' file' ↔
      file = file' ∧ stripSlashes workspace.toList =
        stripSlashes workspace'.toList ++ slash :: component'.toList := by
  rw [workspaceFile_eq hworkspace hfile, componentFile_eq hworkspace' hcomponent' hfile',
    ok_eq_ok_iff hfile hfile']

include hcomponent

theorem componentFile_eq_componentFile_iff :
    componentFile workspace component file = componentFile workspace' component' file' ↔
      component = component' ∧ file = file' ∧
        stripSlashes workspace.toList = stripSlashes workspace'.toList := by
  rw [componentFile_eq hworkspace hcomponent hfile, componentFile_eq hworkspace' hcomponent' hfile',
    ok_eq_ok_iff hfile hfile', Text.append_cons_inj_of_notMem hcomponent.slash hcomponent'.slash,
    String.toList_inj]
  constructor
  · rintro ⟨hname, hstripped, hmiddle⟩
    exact ⟨hmiddle, hname, hstripped⟩
  · rintro ⟨hmiddle, hname, hstripped⟩
    exact ⟨hname, hstripped, hmiddle⟩

/-- Both layouts make a key for every workspace that is accepted and for plain names. Within a
layout two keys are the same exactly if the names are, and the workspaces but for the slashes around
them; a key of a workspace is that of a component exactly if the workspace ends with the component.
So workspaces without slashes have keys of their own in both layouts. -/
theorem keys_eq_iff :
    (workspaceFile workspace file).isOk ∧ (componentFile workspace component file).isOk ∧
    (componentFile workspace component file = componentFile workspace' component' file' ↔
      component = component' ∧ file = file' ∧
        stripSlashes workspace.toList = stripSlashes workspace'.toList) ∧
    (workspaceFile workspace file = workspaceFile workspace' file' ↔
      file = file' ∧ stripSlashes workspace.toList = stripSlashes workspace'.toList) ∧
    (workspaceFile workspace file = componentFile workspace' component' file' ↔
      file = file' ∧ stripSlashes workspace.toList =
        stripSlashes workspace'.toList ++ slash :: component'.toList) ∧
    (slash ∉ workspace.toList → slash ∉ workspace'.toList → workspace ≠ workspace' →
      componentFile workspace component file ≠ componentFile workspace' component' file' ∧
        workspaceFile workspace file ≠ workspaceFile workspace' file') ∧
    (slash ∉ workspace.toList →
      workspaceFile workspace file ≠ componentFile workspace' component' file') := by
  have hcomponents :=
    componentFile_eq_componentFile_iff hworkspace hworkspace' hcomponent hcomponent' hfile hfile'
  have hworkspaces := workspaceFile_eq_workspaceFile_iff hworkspace hworkspace' hfile hfile'
  have hmixed :=
    workspaceFile_eq_componentFile_iff hworkspace hworkspace' hcomponent' hfile hfile'
  refine ⟨?_, ?_, hcomponents, hworkspaces, hmixed, ?_, ?_⟩
  · rw [workspaceFile_eq hworkspace hfile]
    rfl
  · rw [componentFile_eq hworkspace hcomponent hfile]
    rfl
  · intro h h' hne
    have hstripped : stripSlashes workspace.toList ≠ stripSlashes workspace'.toList := by
      rw [stripSlashes_eq_self h, stripSlashes_eq_self h']
      exact fun heq => hne (String.toList_inj.1 heq)
    exact ⟨fun heq => hstripped (hcomponents.1 heq).2.2, fun heq => hstripped (hworkspaces.1 heq).2⟩
  · intro h heq
    obtain ⟨-, hends⟩ := hmixed.1 heq
    rw [stripSlashes_eq_self h] at hends
    -- the slash before the component would stand in the workspace
    apply h
    rw [hends]
    simp

end Layouts

/-- A workspace that ends with the component of another one shares its key. -/
theorem keys_eq_iff_sample :
    workspaceFile "/dev/abs" "common_vars.yaml" = componentFile "dev/" "abs" "common_vars.yaml" ∧
      workspaceFile "dev" "common_vars.yaml" ≠ componentFile "dev" "abs" "common_vars.yaml" := by
  have hnested : IsAccepted "/dev/abs" := ⟨⟨"dev/abs".toList⟩, by decide⟩
  have hslashed : IsAccepted "dev/" := ⟨⟨"dev".toList⟩, by decide⟩
  have hdev : IsAccepted "dev" := ⟨⟨"dev".toList⟩, by decide⟩
  have habs : IsPlain "abs" := ⟨by decide, by decide⟩
  have hfile : IsPlain "common_vars.yaml" := ⟨by decide, by decide⟩
  obtain ⟨-, -, -, -, hshared, -⟩ := keys_eq_iff hnested hslashed habs habs hfile hfile
  obtain ⟨-, -, -, -, -, -, hown⟩ := keys_eq_iff hdev hdev habs habs hfile hfile
  exact ⟨hshared.2 ⟨rfl, by decide⟩, hown (by decide)⟩

end DeploySync.BlobKey
