import DeploySync.Files.Basic
import Mathlib.Tactic.ByContra
import Mathlib.Tactic.SplitIfs

/-!
# What stands in a tree of files

At a list of names there is nothing, a directory, or a file with its bytes. How paths are resolved
depends on nothing else of a tree, and a file or an empty directory put into a directory changes
what stands at its own names only.

## Main definitions

* `Files.Entry.look` — what stands at a list of names

## Main results

* `Files.Entry.look_of_append` — things stand in directories
* `Files.Entry.look_put`, `Files.Entry.look_put_empty` — what stands where behind a file or a
  directory that is put in
* `Files.walk_cons` — one step of the resolution of names
* `Files.walk_put` — how names resolve behind a file that is put in
-/

namespace DeploySync.Files

namespace Entry

variable {e : Entry} {place rest : List String} {name : String} {bytes : ByteArray}

/-- The bytes of a file; a directory has none. -/
def bytes? : Entry → Option ByteArray
  | .file bytes => some bytes
  | .directory _ => none

/-- What stands at a list of names, if anything does: the bytes of a file, or nothing more for a
directory. -/
def look (e : Entry) (names : List String) : Option (Option ByteArray) :=
  (e.get? names).map bytes?

theorem look_nil (e : Entry) : e.look [] = some e.bytes? := rfl

/-- Below a file there is nothing. -/
theorem look_file_cons (bytes : ByteArray) (name : String) (rest : List String) :
    (Entry.file bytes).look (name :: rest) = none := rfl

theorem look_directory_cons (entries : List (String × Entry)) (name : String)
    (rest : List String) :
    (Entry.directory entries).look (name :: rest) =
      (entries.lookup name).bind fun child => child.look rest := by
  rw [look, get?, children_directory]
  cases entries.lookup name <;> rfl

theorem look_eq_directory {names : List String} (h : e.look names = some none) :
    ∃ entries, e.get? names = some (.directory entries) := by
  rw [look, Option.map_eq_some_iff] at h
  obtain ⟨child, hchild, hbytes⟩ := h
  cases child with
  | file bytes => cases hbytes
  | directory entries => exact ⟨entries, hchild⟩

theorem get?_append (e : Entry) (names more : List String) :
    e.get? (names ++ more) = (e.get? names).bind fun child => child.get? more := by
  induction names generalizing e with
  | nil => rfl
  | cons name rest ih =>
    rw [List.cons_append, get?, get?]
    cases e.children.lookup name with
    | none => rfl
    | some child => exact ih child

/-- In a directory there is an entry of a name exactly if something stands at its names. -/
theorem isSome_lookup_iff {entries : List (String × Entry)}
    (h : e.get? place = some (.directory entries)) (name : String) :
    (entries.lookup name).isSome = (e.look (place ++ [name])).isSome := by
  rw [look, get?_append, h, Option.bind_some, get?, children_directory]
  cases entries.lookup name <;> rfl

/-- Names below which something stands lead to a directory. -/
theorem look_of_append {names : List String} {n : String}
    (h : e.look (names ++ n :: rest) ≠ none) : e.look names = some none := by
  rw [look, get?_append] at h
  cases hchild : e.get? names with
  | none => simp [hchild] at h
  | some child =>
    cases child with
    | file bytes => simp [hchild, get?, children] at h
    | directory entries => rw [look, hchild, Option.map_some, bytes?]

/-- Below names at which nothing stands there is nothing. -/
theorem look_append_of_none {names : List String} (h : e.look names = none) (more : List String) :
    e.look (names ++ more) = none := by
  cases more with
  | nil => rwa [List.append_nil]
  | cons n rest =>
    by_contra hne
    rw [look_of_append hne] at h
    cases h

/-- What stands in a directory once an entry was put below one of its names: only the names that
begin with that one lead to something else. -/
theorem look_put_cons (entries : List (String × Entry)) (top : String) (place : List String)
    (new : Entry) (n : String) (names : List String) :
    ((directory entries).put (top :: place) new).look (n :: names) =
      if n = top then (((entries.lookup top).getD empty).put place new).look names
      else (directory entries).look (n :: names) := by
  rw [put, look_directory_cons, Table.lookup_put]
  split_ifs with hn
  · rw [Option.bind_some]
  · rw [look_directory_cons]

/-- An entry with nothing below it that is put into a directory, where nothing stood below its
names, stands there then; elsewhere nothing changes. -/
theorem look_put_of_childless {new : Entry} (hnew : ∀ n more, new.look (n :: more) = none)
    (hplace : e.look place = some none)
    (hbelow : ∀ n more, e.look (place ++ name :: n :: more) = none) (names : List String) :
    (e.put (place ++ [name]) new).look names =
      if names = place ++ [name] then some new.bytes? else e.look names := by
  -- the place is gone down directory by directory; only the last one gets a new entry
  induction place generalizing e names with
  | nil =>
    obtain ⟨entries, he⟩ := look_eq_directory hplace
    obtain rfl := Option.some.inj he
    cases names with
    | nil => rfl
    | cons n rest =>
      rw [List.nil_append, look_put_cons, put]
      by_cases hn : n = name
      · subst hn
        rw [if_pos rfl]
        cases rest with
        | nil => rw [if_pos rfl, look_nil]
        | cons m rest =>
          -- nothing stands below the new entry, and nothing stood there before
          rw [if_neg (by simp), hnew]
          exact (hbelow m rest).symm
      · rw [if_neg hn, if_neg (by simp [hn])]
  | cons top place ih =>
    cases e with
    | file b => cases hplace
    | directory entries =>
      rw [look_directory_cons, Option.bind_eq_some_iff] at hplace
      obtain ⟨child, hchild, hplace⟩ := hplace
      have hlook : ∀ names, (directory entries).look (top :: names) = child.look names :=
        fun names => by rw [look_directory_cons, hchild, Option.bind_some]
      have hbelow' : ∀ n more, child.look (place ++ name :: n :: more) = none := fun n more => by
        rw [← hlook]
        exact hbelow n more
      cases names with
      | nil => rfl
      | cons n rest =>
        -- the entry of this name is replaced by itself with the new one put in
        rw [List.cons_append, look_put_cons, hchild, Option.getD_some]
        by_cases hn : n = top
        · subst hn
          rw [if_pos rfl, ih hplace hbelow', hlook]
          simp only [List.cons.injEq, true_and]
        · rw [if_neg hn, if_neg (by simp [hn])]

/-- A file that is put into a directory, unless a directory stands at its names, stands there then;
elsewhere nothing changes. -/
theorem look_put (hplace : e.look place = some none)
    (hname : e.look (place ++ [name]) ≠ some none) (names : List String) :
    (e.put (place ++ [name]) (.file bytes)).look names =
      if names = place ++ [name] then some (some bytes) else e.look names := by
  refine look_put_of_childless (look_file_cons bytes) hplace (fun n more => ?_) names
  by_contra hne
  rw [List.append_cons] at hne
  exact hname (look_of_append hne)

/-- A directory without entries that is put into a directory, where nothing stood, stands there
then; elsewhere nothing changes. -/
theorem look_put_empty (hplace : e.look place = some none) (hname : e.look (place ++ [name]) = none)
    (names : List String) :
    (e.put (place ++ [name]) empty).look names =
      if names = place ++ [name] then some none else e.look names := by
  refine look_put_of_childless (fun n more => rfl) hplace (fun n more => ?_) names
  rw [List.append_cons]
  exact look_append_of_none hname (n :: more)

end Entry

variable {root root' : Entry} {place : List String}

theorem walk_nil (root : Entry) (place : List String) : walk root place [] = .ok place := rfl

/-- One step of the resolution of names. -/
theorem walk_cons (root : Entry) (place : List String) (name : String) (rest : List String) :
    walk root place (name :: rest) =
      match root.look place with
      | none => .error (.os .notFound)
      | some (some _) => .error (.os .notADirectory)
      | some none =>
        if name = up then walk root place.dropLast rest
        else if maxNameLength < name.utf8ByteSize then .error (.os .nameTooLong)
        else if (root.look (place ++ [name])).isSome then walk root (place ++ [name]) rest
        else .error (.os .notFound) := by
  rw [walk]
  cases hplace : root.get? place with
  | none => rw [Entry.look, hplace, Option.map_none]
  | some e =>
    cases e with
    | file bytes =>
      rw [Entry.look, hplace, Option.map_some, Entry.bytes?]
    | directory entries =>
      -- whether there is an entry of the name is what can be seen at its names
      have hlook : root.look place = some none := by
        rw [Entry.look, hplace, Option.map_some, Entry.bytes?]
      simp only [hlook, Entry.isSome_lookup_iff hplace name]

theorem walk_append (root : Entry) (place names more : List String) :
    walk root place (names ++ more) =
      match walk root place names with
      | .error fault => .error fault
      | .ok place => walk root place more := by
  induction names generalizing place with
  | nil => rfl
  | cons name rest ih =>
    rw [List.cons_append, walk_cons, walk_cons]
    rcases root.look place with _ | _ | _
    · rfl
    · simp only [ih]
      split_ifs <;> rfl
    · rfl

/-- Behind names that lead to a place, names are followed from there. -/
theorem walk_append_of_walk {from_ before place : List String}
    (hwalk : walk root from_ before = .ok place) (names : List String) :
    walk root from_ (before ++ names) = walk root place names := by
  simp only [walk_append, hwalk]

/-- In a tree that differs by a file only, names resolve as before, or they did not resolve before
because there was no such file. -/
theorem walk_put {target : List String} {bytes : ByteArray} (htarget : root.look target ≠ some none)
    (h : ∀ names, root'.look names = if names = target then some (some bytes) else root.look names)
    (place names : List String) :
    walk root' place names = walk root place names ∨
      root.look target = none ∧ walk root place names = .error (.os .notFound) := by
  induction names generalizing place with
  | nil => exact Or.inl rfl
  | cons name rest ih =>
    rw [walk_cons, walk_cons]
    by_cases hplace : place = target
    · -- behind the names of a file no further name resolves, be it new or not
      subst hplace
      rw [h place, if_pos rfl]
      rcases hlook : root.look place with _ | _ | _
      · exact Or.inr ⟨rfl, rfl⟩
      · exact absurd hlook htarget
      · exact Or.inl rfl
    · rw [h place, if_neg hplace]
      rcases root.look place with _ | _ | _
      · exact Or.inl rfl
      · dsimp only
        split_ifs with hup hlong hnew hold hold
        · exact ih _
        · exact Or.inl rfl
        · exact ih _
        · -- only the new file is here
          rw [h] at hnew
          split_ifs at hnew with hname
          · subst hname
            exact Or.inr ⟨by simpa using hold, rfl⟩
          · exact absurd hnew hold
        · rw [h] at hnew
          split_ifs at hnew with hname
          · simp at hnew
          · exact absurd hold hnew
        · exact Or.inl rfl
      · exact Or.inl rfl

end DeploySync.Files
