import DeploySync.Path
import DeploySync.Proofs.Text.Split
import Mathlib.Tactic.SplitIfs

/-!
# The names of a joined path

What is joined to a path may have several names, unless it starts at the root. A single name is a
case of this.

## Main definitions

* `Path.namesOf` — the names that a text spells
* `Path.IsName` — a text that is one name
* `Path.startsHere` — a path that starts with a dot

## Main results

* `Path.names_join_of_head`, `Path.names_join` — what is joined to a path comes behind the names of
  the path
* `Path.isAbsolute_join`, `Path.namesDirectory_join` — the rest that resolving a joined path
  depends on
* `Path.startsHere_join_of_head` — a joined path starts like the path that it is joined to
-/

namespace DeploySync

namespace Path

/-- A text that is the name of a file: no part of it is a directory of its own. -/
structure IsName (file : String) : Prop where
  slash : '/' ∉ file.toList
  notTrivial : isTrivial file.toList = false

/-- The names that a text spells between its slashes. -/
def namesOf (s : List Char) : List String :=
  ((Text.split '/' s).filter (! isTrivial ·)).map String.ofList

/-- The path starts with a dot that stands alone. -/
def startsHere (p : Path) : Bool := (Text.split '/' p.text.toList).head? == some ['.']

theorem names_eq (p : Path) : p.names = namesOf p.text.toList := rfl

@[simp] theorem namesOf_nil : namesOf [] = [] := rfl

/-- The names behind a slash come behind those before it. -/
theorem namesOf_append_cons (s t : List Char) :
    namesOf (s ++ '/' :: t) = namesOf s ++ namesOf t := by
  rw [namesOf, Text.split_append_cons, List.filter_append, List.map_append]
  rfl

/-- A text without slashes that says something is one name. -/
theorem IsName.namesOf {file : String} (hfile : IsName file) :
    Path.namesOf file.toList = [file] := by
  rw [Path.namesOf, Text.split_eq_singleton hfile.slash,
    List.filter_cons_of_pos (by simp [hfile.notTrivial])]
  simp

variable {dir p : Path} {file q : String}

theorem IsName.head (hfile : IsName file) : file.toList.head? ≠ some '/' :=
  fun h => hfile.slash (List.mem_of_mem_head? h)

/-- What does not start at the root stands behind the path that it is joined to and a slash. -/
theorem toList_join_of_head (hdir : dir.text.isEmpty = false) (hq : q.toList.head? ≠ some '/') :
    ∃ s, (dir.join q).text.toList = s ++ '/' :: q.toList ∧
      (dir.text.toList = s ∨ dir.text.toList = s ++ ['/']) := by
  have hhead : (q.toList.head? == some '/') = false := by
    rwa [beq_eq_false_iff_ne]
  rw [join, hhead, hdir, if_neg (by simp)]
  -- a slash at the end of the path is not doubled
  by_cases hlast : dir.text.toList.getLast? = some '/'
  · obtain ⟨s, hs⟩ := List.getLast?_eq_some_iff.1 hlast
    rw [if_pos (by simpa using hlast)]
    exact ⟨s, by rw [String.toList_append, hs]; simp, Or.inr hs⟩
  · rw [if_neg (by simpa using hlast)]
    exact ⟨dir.text.toList, by simp [String.toList_append], Or.inl rfl⟩

/-- A file name joined to a path stands behind it and a slash. -/
theorem toList_join (hdir : dir.text.isEmpty = false) (hfile : IsName file) :
    ∃ s, (dir.join file).text.toList = s ++ '/' :: file.toList ∧
      (dir.text.toList = s ∨ dir.text.toList = s ++ ['/']) :=
  toList_join_of_head hdir hfile.head

theorem eq_empty_of_isEmpty (hdir : dir.text.isEmpty) : dir = ⟨""⟩ := by
  have htext : dir.text = "" := by simpa using hdir
  rw [← htext]

/-- What is joined to the empty path stands alone. -/
theorem join_empty (q : String) : Path.join ⟨""⟩ q = ⟨q⟩ := by
  rw [join, if_pos (by simp)]

/-- What is joined to a path that says something says something. -/
theorem isEmpty_join (hdir : dir.text.isEmpty = false) (q : String) :
    (dir.join q).text.isEmpty = false := by
  rw [join]
  split_ifs with hhead hslash
  · rw [Bool.or_eq_true, hdir] at hhead
    rw [String.isEmpty_eq_false_iff]
    rintro rfl
    simp at hhead
  · rw [String.isEmpty_eq_false_iff, Ne, ← String.toList_eq_nil_iff] at hdir ⊢
    simp [String.toList_append, hdir]
  · rw [String.isEmpty_eq_false_iff, Ne, ← String.toList_eq_nil_iff]
    simp [String.toList_append]

/-- What is joined to a path has its names behind those of the path. -/
theorem names_join_of_head (hq : q.toList.head? ≠ some '/') :
    (dir.join q).names = dir.names ++ namesOf q.toList := by
  cases hdir : dir.text.isEmpty with
  | true =>
    rw [eq_empty_of_isEmpty hdir, join_empty]
    rfl
  | false =>
    obtain ⟨s, hjoin, hs⟩ := toList_join_of_head hdir hq
    rw [names_eq, names_eq, hjoin, namesOf_append_cons]
    rcases hs with hs | hs
    · rw [hs]
    · -- behind its last slash the path has no name
      rw [hs, namesOf_append_cons, namesOf_nil, List.append_nil]

/-- A name joined to a path comes behind the names of the path. -/
theorem names_join (hfile : IsName file) : (dir.join file).names = dir.names ++ [file] := by
  rw [names_join_of_head hfile.head, hfile.namesOf]

/-- A path stays relative or absolute when something is joined to it. -/
theorem isAbsolute_join_of_head (hq : q.toList.head? ≠ some '/') :
    (dir.join q).isAbsolute = dir.isAbsolute := by
  cases hdir : dir.text.isEmpty with
  | true =>
    rw [eq_empty_of_isEmpty hdir, join_empty, isAbsolute]
    simpa [isAbsolute] using hq
  | false =>
    have hne : dir.text.toList ≠ [] := by
      intro h
      rw [String.toList_eq_nil_iff] at h
      rw [h] at hdir
      simp at hdir
    obtain ⟨s, hjoin, hs⟩ := toList_join_of_head hdir hq
    rw [isAbsolute, isAbsolute, hjoin]
    -- the first character of the path is that of the directory
    rcases hs with hs | hs
    · rw [hs] at hne ⊢
      cases s with
      | nil => exact absurd rfl hne
      | cons c s => rfl
    · rw [hs]
      cases s <;> rfl

/-- A path stays relative or absolute when a name is joined to it. -/
theorem isAbsolute_join (hfile : IsName file) : (dir.join file).isAbsolute = dir.isAbsolute :=
  isAbsolute_join_of_head hfile.head

/-- What is joined to a path that says something does not change how the path starts. -/
theorem startsHere_join_of_head (hdir : dir.text.isEmpty = false) (hq : q.toList.head? ≠ some '/') :
    (dir.join q).startsHere = dir.startsHere := by
  obtain ⟨s, hjoin, hs⟩ := toList_join_of_head hdir hq
  rw [startsHere, startsHere, hjoin, Text.split_append_cons,
    List.head?_append_of_ne_nil _ (Text.split_ne_nil _ _)]
  rcases hs with hs | hs
  · rw [hs]
  · rw [hs, Text.split_append_cons, List.head?_append_of_ne_nil _ (Text.split_ne_nil _ _)]

/-- What is joined to a path stands at its end. -/
theorem exists_toList_join (dir : Path) (q : String) :
    ∃ s, (dir.join q).text.toList = s ++ q.toList := by
  rw [join]
  split_ifs
  · exact ⟨[], rfl⟩
  · exact ⟨dir.text.toList, String.toList_append⟩
  · exact ⟨dir.text.toList ++ ['/'], by simp [String.toList_append]⟩

/-- A path that ends with a name ends like that of a file. -/
theorem namesDirectory_of_name {s : List Char} (hp : p.text.toList = s ++ file.toList)
    (hfile : IsName file) : p.namesDirectory = false := by
  -- the name read backwards begins with no slash, and is more than a dot
  have hslash : '/' ∉ file.toList.reverse := by simpa using hfile.slash
  have hdot : file.toList.reverse ≠ ['.'] := by
    intro h
    have hfile' := hfile.notTrivial
    rw [← List.reverse_reverse file.toList, h] at hfile'
    cases hfile'
  have hnil : file.toList.reverse ≠ [] := by
    intro h
    have hfile' := hfile.notTrivial
    rw [← List.reverse_reverse file.toList, h] at hfile'
    cases hfile'
  rw [namesDirectory, hp, List.reverse_append]
  rcases hrev : file.toList.reverse with _ | ⟨c, rest⟩
  · exact absurd hrev hnil
  · rw [hrev] at hslash hdot
    have hc : c ≠ '/' := fun h => hslash (by simp [h])
    have hrest : c = '.' → ∃ d more, rest = d :: more ∧ d ≠ '/' := by
      intro h
      cases rest with
      | nil => exact absurd (by rw [h]) hdot
      | cons d more => exact ⟨d, more, rfl, fun hd => hslash (by simp [hd])⟩
    simp only [List.cons_append]
    split
    · rename_i heq
      exact absurd (List.cons.inj heq).1 hc
    · rename_i heq
      obtain ⟨rfl, rfl, -⟩ : c = '.' ∧ rest = [] ∧ s = [] := by simpa using heq
      exact absurd rfl hdot
    · rename_i heq
      obtain ⟨d, more, rfl, hd⟩ := hrest (List.cons.inj heq).1
      exact absurd (List.cons.inj (List.cons.inj heq).2).1 hd
    · rfl

/-- A joined path ends like that of a file. -/
theorem namesDirectory_join (hfile : IsName file) : (dir.join file).namesDirectory = false := by
  obtain ⟨s, hjoin⟩ := exists_toList_join dir file
  exact namesDirectory_of_name hjoin hfile

end Path

end DeploySync
