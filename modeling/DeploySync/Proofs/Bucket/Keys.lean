import DeploySync.Proofs.BlobKey
import DeploySync.Proofs.Files.Directories
import DeploySync.Proofs.Path.Parent

/-!
# Keys as paths

A trimmed key that has no relative components is a path of one or more names, none of which goes up.
Empty components of a key are no names of the path, so that keys can differ where paths do not.

## Main definitions

* `BlobKey.names` — the names of a key as a path
* `BlobKey.IsAbove` — the components of a key are the first ones of another key

## Main results

* `BlobKey.up_notMem_names`, `BlobKey.names_ne_nil` — the path leads to something below its start
* `BlobKey.names_eq_map_components` — every component of a key without empty ones is a name
* `BlobKey.names_join`, `BlobKey.namesDirectory_join`, `BlobKey.exists_parent_join` — a key joined
  to a path
-/

namespace DeploySync.BlobKey

variable {k k' : BlobKey} {dir : Path}

/-- The names that a key spells as a path. -/
def names (k : BlobKey) : List String := Path.namesOf k.chars

/-- The components of the key are the first ones of another key. -/
def IsAbove (k k' : BlobKey) : Prop := k.components <+: k'.components ∧ k ≠ k'

@[simp] theorem toList_text (k : BlobKey) : k.text.toList = k.chars := String.toList_ofList

theorem isRelative_iff : k.isRelative ↔ ['.'] ∈ k.components ∨ ['.', '.'] ∈ k.components := by
  simp [isRelative, and_or_left, exists_or]

theorem isRelative_eq_false_iff :
    k.isRelative = false ↔ ∀ c ∈ k.components, c ≠ ['.'] ∧ c ≠ ['.', '.'] := by
  simp [isRelative]

/-- No name of a key without relative components goes up. -/
theorem up_notMem_names (hk : k.isRelative = false) : Files.up ∉ k.names := by
  intro hup
  obtain ⟨c, hc, hcup⟩ := List.mem_map.1 hup
  have hcomponent := (isRelative_eq_false_iff.1 hk c (List.mem_of_mem_filter hc)).2
  exact hcomponent (by rw [← String.toList_ofList (l := c), hcup]; rfl)

/-- Nor does one of the directories above its file. -/
theorem up_notMem_above (hk : k.isRelative = false) : Files.up ∉ k.names.dropLast := fun hup =>
  up_notMem_names hk (List.dropLast_subset _ hup)

/-- A trimmed key does not start with a slash. -/
theorem IsTrimmed.head (hk : k.IsTrimmed) : k.text.toList.head? ≠ some '/' := by
  intro hhead
  rw [toList_text] at hhead
  exact hk.first (Text.head?_split_eq_nil_iff.2 (Or.inr hhead))

/-- The last component of a trimmed key that is not relative is a name. -/
theorem exists_lastComponent (hk : k.IsTrimmed) (hrelative : k.isRelative = false) :
    ∃ file, Path.IsName file ∧ k.components.getLast? = some file.toList := by
  cases hlast : k.components.getLast? with
  | none => exact absurd (List.getLast?_eq_none_iff.1 hlast) (Text.split_ne_nil slash k.chars)
  | some last =>
    have hmem := List.mem_of_getLast? hlast
    have hne : last ≠ [] := fun h => hk.last (by rw [hlast, h])
    have hdot := (isRelative_eq_false_iff.1 hrelative last hmem).1
    refine ⟨String.ofList last, ⟨?_, ?_⟩, by rw [String.toList_ofList]⟩
    · rw [String.toList_ofList]
      exact Text.notMem_of_mem_split hmem
    · rw [String.toList_ofList]
      simp [Path.isTrivial, hne, hdot]

/-- A trimmed key that is not relative ends with a name. -/
theorem exists_name (hk : k.IsTrimmed) (hrelative : k.isRelative = false) :
    ∃ file, Path.IsName file ∧
      (k.chars = file.toList ∨ ∃ s, k.chars = s ++ '/' :: file.toList) := by
  obtain ⟨file, hfile, hlast⟩ := exists_lastComponent hk hrelative
  obtain ⟨init, hcomponents⟩ := List.getLast?_eq_some_iff.1 hlast
  have hjoin := Text.join_split slash k.chars
  change Text.join [slash] k.components = k.chars at hjoin
  rw [hcomponents] at hjoin
  refine ⟨file, hfile, ?_⟩
  by_cases hinit : init = []
  · rw [hinit] at hjoin
    exact Or.inl hjoin.symm
  · rw [Text.join_concat hinit, List.append_assoc] at hjoin
    exact Or.inr ⟨_, hjoin.symm⟩

/-- A trimmed key that is not relative has a name. -/
theorem names_ne_nil (hk : k.IsTrimmed) (hrelative : k.isRelative = false) : k.names ≠ [] := by
  obtain ⟨file, hfile, hchars | ⟨s, hchars⟩⟩ := exists_name hk hrelative
  · rw [names, hchars, hfile.namesOf]
    simp
  · rw [names, hchars, Path.namesOf_append_cons, hfile.namesOf]
    simp

/-- There are fewer names above a file than there are names of it. -/
theorem not_prefix_above (hk : k.IsTrimmed) (hrelative : k.isRelative = false) :
    ¬ k.names <+: k.names.dropLast := by
  intro hprefix
  have hlength := hprefix.length_le
  have hpos := List.length_pos_iff.2 (names_ne_nil hk hrelative)
  rw [List.length_dropLast] at hlength
  omega

/-- A trimmed key of a single name is that name. -/
theorem text_of_names {name : String} (hk : k.IsTrimmed) (hrelative : k.isRelative = false)
    (hnames : k.names = [name]) : k.text = name := by
  obtain ⟨first, rest, hcomponents⟩ :=
    List.exists_cons_of_ne_nil (Text.split_ne_nil slash k.chars)
  have hparts : (k.components.filter (! Path.isTrivial ·)).map String.ofList = [name] := hnames
  have hfirst : Path.isTrivial first = false := by
    have hne : first ≠ [] := fun h => hk.first (by rw [components, hcomponents, h]; rfl)
    have hdot := isRelative_eq_false_iff.1 hrelative first (by simp [components, hcomponents])
    simp [Path.isTrivial, hne, hdot.1]
  rw [components, hcomponents, List.filter_cons_of_pos (by simp [hfirst]), List.map_cons,
    List.cons.injEq, List.map_eq_nil_iff, List.filter_eq_nil_iff] at hparts
  obtain ⟨hname, hrest⟩ := hparts
  -- the last component says something, so that it is the first one
  have hnil : rest = [] := by
    rcases List.eq_nil_or_concat rest with hnil | ⟨init, last, hlast⟩
    · exact hnil
    · rw [List.concat_eq_append] at hlast
      have hmem : last ∈ k.components := by simp [components, hcomponents, hlast]
      have hne : last ≠ [] := by
        rintro rfl
        refine hk.last ?_
        rw [components, hcomponents, hlast, ← List.cons_append, List.getLast?_concat]
      have hdot := isRelative_eq_false_iff.1 hrelative last hmem
      have htrivial := hrest last (by simp [hlast])
      simp [Path.isTrivial, hne, hdot.1] at htrivial
  have hjoin := Text.join_split slash k.chars
  rw [hcomponents, hnil] at hjoin
  rw [text, ← hjoin]
  exact hname

/-! ### Keys without empty components -/

/-- Without empty or relative components every component of a key is a name. -/
theorem names_eq_map_components (hk : [] ∉ k.components) (hrelative : k.isRelative = false) :
    k.names = k.components.map String.ofList := by
  rw [names, Path.namesOf]
  change (k.components.filter _).map _ = _
  rw [List.filter_eq_self.2]
  intro c hc
  have hne : c ≠ [] := fun h => hk (h ▸ hc)
  simp [Path.isTrivial, hne, (isRelative_eq_false_iff.1 hrelative c hc).1]

theorem isTrimmed_of_notMem (hk : [] ∉ k.components) : k.IsTrimmed where
  first h := hk (List.mem_of_mem_head? h)
  last h := hk (List.mem_of_getLast? h)

theorem eq_of_components (h : k.components = k'.components) : k = k' := by
  have hjoin := Text.join_split slash k.chars
  have hjoin' := Text.join_split slash k'.chars
  change Text.join [slash] k.components = k.chars at hjoin
  rw [h] at hjoin
  cases k
  cases k'
  exact congrArg BlobKey.mk (hjoin.symm.trans hjoin')

/-- Among keys without empty or relative components the names show which one is above another. -/
theorem names_prefix_iff (hk : [] ∉ k.components) (hrelative : k.isRelative = false)
    (hk' : [] ∉ k'.components) (hrelative' : k'.isRelative = false) :
    k.names <+: k'.names ↔ k.components <+: k'.components := by
  rw [names_eq_map_components hk hrelative, names_eq_map_components hk' hrelative']
  exact List.prefix_map_iff_of_injective fun _ _ h => String.ofList_injective h

/-- Keys without empty or relative components differ in their names. -/
theorem eq_of_names (hk : [] ∉ k.components) (hrelative : k.isRelative = false)
    (hk' : [] ∉ k'.components) (hrelative' : k'.isRelative = false) (h : k.names = k'.names) :
    k = k' := by
  rw [names_eq_map_components hk hrelative, names_eq_map_components hk' hrelative'] at h
  exact eq_of_components (List.map_injective_iff.2 (fun _ _ h => String.ofList_injective h) h)

/-! ### Keys behind a path -/

theorem names_join (hk : k.IsTrimmed) : (dir.join k.text).names = dir.names ++ k.names := by
  rw [Path.names_join_of_head hk.head, toList_text]
  rfl

theorem isAbsolute_join (hk : k.IsTrimmed) : (dir.join k.text).isAbsolute = dir.isAbsolute :=
  Path.isAbsolute_join_of_head hk.head

/-- The path starts like the one that the key is joined to. -/
theorem startsHere_join (hk : k.IsTrimmed) (hrelative : k.isRelative = false) (dir : Path) :
    (dir.join k.text).startsHere = dir.startsHere := by
  cases hdir : dir.text.isEmpty with
  | true =>
    -- a key that stands alone starts with a name
    rw [Path.eq_empty_of_isEmpty hdir, Path.join_empty, Path.startsHere, toList_text]
    refine beq_eq_false_iff_ne.2 fun hhead => ?_
    exact (isRelative_eq_false_iff.1 hrelative _ (List.mem_of_mem_head? hhead)).1 rfl
  | false => exact Path.startsHere_join_of_head hdir hk.head

/-- The path ends like that of a file. -/
theorem namesDirectory_join (hk : k.IsTrimmed) (hrelative : k.isRelative = false) (dir : Path) :
    (dir.join k.text).namesDirectory = false := by
  obtain ⟨s, hjoin⟩ := Path.exists_toList_join dir k.text
  obtain ⟨file, hfile, hchars | ⟨s', hchars⟩⟩ := exists_name hk hrelative
  · rw [toList_text, hchars] at hjoin
    exact Path.namesDirectory_of_name hjoin hfile
  · rw [toList_text, hchars, List.append_cons, ← List.append_assoc] at hjoin
    exact Path.namesDirectory_of_name hjoin hfile

/-- The path ends with the last component of the key. -/
theorem getLast?_join (hk : k.IsTrimmed) (dir : Path) :
    (Text.split '/' (dir.join k.text).text.toList).getLast? = k.components.getLast? := by
  cases hdir : dir.text.isEmpty with
  | true =>
    rw [Path.eq_empty_of_isEmpty hdir, Path.join_empty, toList_text]
    rfl
  | false =>
    obtain ⟨s, hjoin, -⟩ := Path.toList_join_of_head hdir hk.head
    rw [hjoin, toList_text, Text.split_append_cons,
      List.getLast?_append_of_ne_nil _ (Text.split_ne_nil _ _)]
    rfl

/-- The parent of the path is a path to the directories of the key. -/
theorem exists_parent_join (hk : k.IsTrimmed) (hrelative : k.isRelative = false) (dir : Path) :
    ∃ p, (dir.join k.text).parent? = some p ∧ p.names = dir.names ++ k.names.dropLast ∧
      p.isAbsolute = dir.isAbsolute ∧ p.startsHere = dir.startsHere ∧
      p.text.toList <+: (dir.join k.text).text.toList := by
  obtain ⟨file, hfile, hlast⟩ := exists_lastComponent hk hrelative
  obtain ⟨p, hparent, hnames, habsolute, hhere, htext⟩ :=
    Path.exists_parent ((getLast?_join hk dir).trans hlast) hfile
  refine ⟨p, hparent, ?_, habsolute.trans (isAbsolute_join hk),
    hhere.trans (startsHere_join hk hrelative dir), htext⟩
  rw [hnames, names_join hk, List.dropLast_append_of_ne_nil (names_ne_nil hk hrelative)]

end DeploySync.BlobKey
