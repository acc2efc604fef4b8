import DeploySync.Proofs.BlobKey.Joining

/-!
# Keys

## Main definitions

* `BlobKey.IsTrimmed` — a key with no slash at its ends
* `BlobKey.IsMade` — a key of segments

## Main results

* `BlobKey.IsMade.isTrimmed` — keys of segments are trimmed
* `BlobKey.workspaceFile_eq_ok_iff` — the key of a file of a workspace, written out
* `BlobKey.workspaceFile_of_blank`, `BlobKey.exists_workspaceFile` — the workspaces that make keys
* `BlobKey.workspaceFile_ne` — two files of one workspace have two keys
* `BlobKey.componentFile_ne` — a file of two components of one workspace has two keys
-/

namespace DeploySync.BlobKey

variable {workspace component component' file file' : String} {k k' : BlobKey}
variable {part : List Char}

/-! ### Slashes at the ends -/

/-- The key is not empty, and no slash stands at its ends. -/
structure IsTrimmed (k : BlobKey) : Prop where
  first : k.components.head? ≠ some []
  last : k.components.getLast? ≠ some []

theorem IsNormal.isTrimmed (hk : k.IsNormal) : k.IsTrimmed where
  first := by
    rw [components, Ne, Text.head?_split_eq_nil_iff, not_or]
    exact ⟨hk.ne_nil, hk.first⟩
  last := by
    rw [components, Ne, Text.getLast?_split_eq_nil_iff, not_or]
    exact ⟨hk.ne_nil, hk.last⟩

/-- A key that segments make. -/
def IsMade (k : BlobKey) : Prop := ∃ segments, ofSegments segments = .ok k

/-- Keys of segments have no slash at their ends. -/
theorem IsMade.isTrimmed (hk : k.IsMade) : k.IsTrimmed := by
  obtain ⟨segments, h⟩ := hk
  exact (isNormal_of_ofSegments h).isTrimmed

theorem workspaceFile_eq_ok_iff :
    workspaceFile workspace file = .ok k ↔
      ∃ directory name, segment? workspace.toList = some directory ∧
        segment? file.toList = some name ∧ k = ⟨directory ++ slash :: name⟩ := by
  rw [workspaceFile, ofSegments, ofCharSegments]
  cases hworkspace : segment? workspace.toList with
  | none => simp [hworkspace]
  | some directory =>
    cases hfile : segment? file.toList with
    | none => simp [hworkspace, hfile]
    | some name => simp [hworkspace, hfile, Text.join, eq_comm]

/-- The name of the file stands behind the last slash of its key. -/
theorem suffix_of_workspaceFile (hk : workspaceFile workspace file = .ok k)
    (hfile : segment? file.toList = some part) : slash :: part <:+ k.chars := by
  obtain ⟨directory, name, -, hname, rfl⟩ := workspaceFile_eq_ok_iff.1 hk
  obtain rfl : name = part := Option.some.inj (hname.symm.trans hfile)
  exact List.suffix_append directory (slash :: name)

/-- A workspace that is blank once the slashes around it are gone makes no key. -/
theorem workspaceFile_of_blank (hworkspace : Text.allBlank (stripSlashes workspace.toList))
    (file : String) : workspaceFile workspace file = .error (.validation .blankKeySegment) := by
  have hsegment : segment? workspace.toList = none := if_pos hworkspace
  rw [workspaceFile, ofSegments, ofCharSegments]
  simp [hsegment]

/-- Any other workspace makes one with every file whose name is not blank. -/
theorem exists_workspaceFile (hworkspace : ¬ Text.allBlank (stripSlashes workspace.toList))
    (hfile : ¬ Text.allBlank (stripSlashes file.toList)) :
    ∃ key, workspaceFile workspace file = .ok key :=
  ⟨_, workspaceFile_eq_ok_iff.2 ⟨_, _, if_neg hworkspace, if_neg hfile, rfl⟩⟩

/-- Files of one workspace whose names differ as parts of a key have different keys. -/
theorem workspaceFile_ne (hk : workspaceFile workspace file = .ok k)
    (hk' : workspaceFile workspace file' = .ok k')
    (hne : segment? file.toList ≠ segment? file'.toList) : k ≠ k' := by
  obtain ⟨directory, name, hdirectory, hname, rfl⟩ := workspaceFile_eq_ok_iff.1 hk
  obtain ⟨directory', name', hdirectory', hname', rfl⟩ := workspaceFile_eq_ok_iff.1 hk'
  obtain rfl : directory = directory' := Option.some.inj (hdirectory.symm.trans hdirectory')
  -- the same directory stands before both names
  intro heq
  have hchars := BlobKey.mk.inj heq
  have hnames := List.append_cancel_left hchars
  refine hne ?_
  rw [hname, hname', List.tail_eq_of_cons_eq hnames]

theorem componentFile_eq_ok_iff :
    componentFile workspace component file = .ok k ↔
      ∃ directory middle name, segment? workspace.toList = some directory ∧
        segment? component.toList = some middle ∧ segment? file.toList = some name ∧
        k = ⟨directory ++ slash :: (middle ++ slash :: name)⟩ := by
  rw [componentFile, ofSegments, ofCharSegments]
  cases hworkspace : segment? workspace.toList with
  | none => simp [hworkspace]
  | some directory =>
    cases hcomponent : segment? component.toList with
    | none => simp [hworkspace, hcomponent]
    | some middle =>
      cases hfile : segment? file.toList with
      | none => simp [hworkspace, hcomponent, hfile]
      | some name => simp [hworkspace, hcomponent, hfile, Text.join, eq_comm]

/-- Components of one workspace whose names differ as parts of a key have different keys for one
file. -/
theorem componentFile_ne (hk : componentFile workspace component file = .ok k)
    (hk' : componentFile workspace component' file = .ok k')
    (hne : segment? component.toList ≠ segment? component'.toList) : k ≠ k' := by
  obtain ⟨directory, middle, name, hdirectory, hmiddle, hname, rfl⟩ :=
    componentFile_eq_ok_iff.1 hk
  obtain ⟨directory', middle', name', hdirectory', hmiddle', hname', rfl⟩ :=
    componentFile_eq_ok_iff.1 hk'
  obtain rfl : directory = directory' := Option.some.inj (hdirectory.symm.trans hdirectory')
  obtain rfl : name = name' := Option.some.inj (hname.symm.trans hname')
  -- the same directory stands before both components, and the same name behind them
  intro heq
  have hbehind := List.tail_eq_of_cons_eq (List.append_cancel_left (BlobKey.mk.inj heq))
  refine hne ?_
  rw [hmiddle, hmiddle', List.append_cancel_right hbehind]

end DeploySync.BlobKey
