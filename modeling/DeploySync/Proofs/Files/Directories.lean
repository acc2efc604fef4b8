import DeploySync.Proofs.Files.Writing
import Mathlib.Data.List.Induction

/-!
# Creating directories

Names that can be followed lead where they say: `..` goes up and every other name goes down.
Creating a directory with those above it puts directories where nothing stood and changes nothing
else. It succeeds unless a file is in the way, and with a file in the way nothing is created at all.

## Main definitions

* `Files.resolve` — where names lead
* `Files.Grown` — files with some more directories
* `Files.Stored` — files with some more directories and a file
* `Files.Entry.Free` — no file is in the way of a directory
* `Files.Below` — where the directories of names stand that are followed from a place

## Main results

* `Files.eq_resolve_of_walk`, `Files.walk_below` — names that can be followed
* `Files.grown_createDirectories` — creating directories only adds directories
* `Files.createUpwards_of_free`, `Files.createUpwards_of_file` — when it succeeds
-/

namespace DeploySync.Files

variable {f g h : Files} {root root' : Entry} {name : String} {bytes : ByteArray}
variable {fault : FileFault}
variable {p : Path} {place place' target from_ names before rest : List String}

/-! ### Names that can be followed -/

/-- Where names lead from a place, if they can be followed: `..` goes up, other names go down. -/
def resolve : (place : List String) → List String → List String
  | place, [] => place
  | place, name :: rest =>
    if name = up then resolve place.dropLast rest else resolve (place ++ [name]) rest

@[simp] theorem resolve_nil (place : List String) : resolve place [] = place := rfl

theorem resolve_append (place names more : List String) :
    resolve place (names ++ more) = resolve (resolve place names) more := by
  induction names generalizing place with
  | nil => rfl
  | cons name rest ih =>
    rw [List.cons_append, resolve, resolve, ih, ih]
    split_ifs <;> rfl

theorem resolve_of_notMem (hup : up ∉ names) (place : List String) :
    resolve place names = place ++ names := by
  induction names generalizing place with
  | nil => rw [resolve_nil, List.append_nil]
  | cons name rest ih =>
    rw [List.mem_cons, not_or] at hup
    rw [resolve, if_neg (Ne.symm hup.1), ih hup.2, List.append_assoc, List.singleton_append]

/-- Names that can be followed lead where they say. -/
theorem eq_resolve_of_walk (hwalk : walk root place names = .ok target) :
    target = resolve place names := by
  induction names generalizing place with
  | nil => exact (Except.ok.inj hwalk).symm
  | cons name rest ih =>
    rw [walk_cons] at hwalk
    rw [resolve]
    split at hwalk
    · cases hwalk
    · cases hwalk
    · split_ifs at hwalk ⊢ with hup hlong hthere
      · exact ih hwalk
      · exact ih hwalk

/-- All names but the last one of those that can be followed lead to directories. -/
theorem look_resolve_of_walk (hwalk : walk root place (before ++ name :: rest) = .ok target) :
    walk root place before = .ok (resolve place before) ∧
      root.look (resolve place before) = some none := by
  rw [walk_append] at hwalk
  cases hbefore : walk root place before with
  | error fault =>
    rw [hbefore] at hwalk
    cases hwalk
  | ok place' =>
    simp only [hbefore, walk_cons] at hwalk
    rw [← eq_resolve_of_walk hbefore]
    split at hwalk
    · cases hwalk
    · cases hwalk
    · exact ⟨rfl, by assumption⟩

/-- Names that can be followed are not too long. -/
theorem fits_of_walk (hwalk : walk root place names = .ok target) :
    ∀ name ∈ names, ¬ maxNameLength < name.utf8ByteSize := by
  induction names generalizing place with
  | nil => simp
  | cons name rest ih =>
    rw [walk_cons] at hwalk
    rw [List.forall_mem_cons]
    split at hwalk
    · cases hwalk
    · cases hwalk
    · split_ifs at hwalk with hup hlong hthere
      · rw [hup]
        exact ⟨by decide, ih hwalk⟩
      · exact ⟨hlong, ih hwalk⟩

/-- Names can be followed down to where something stands. -/
theorem walk_below (hup : up ∉ names) (hfits : ∀ name ∈ names, ¬ maxNameLength < name.utf8ByteSize)
    (hthere : root.look (place ++ names) ≠ none) :
    walk root place names = .ok (place ++ names) := by
  induction names generalizing place with
  | nil => rw [walk_nil, List.append_nil]
  | cons name rest ih =>
    rw [List.mem_cons, not_or] at hup
    rw [List.forall_mem_cons] at hfits
    have hplace : root.look place = some none := Entry.look_of_append hthere
    rw [List.append_cons] at hthere
    have hname : (root.look (place ++ [name])).isSome := by
      rw [Option.isSome_iff_ne_none]
      exact fun hnone => hthere (Entry.look_append_of_none hnone rest)
    rw [walk_cons, hplace]
    dsimp only
    rw [if_neg (Ne.symm hup.1), if_neg hfits.1, if_pos hname, ih hup.2 hfits.2 hthere,
      List.append_assoc, List.singleton_append]

/-- Where directories are, and that something is where it is, is all that following names depends
on. -/
theorem walk_of_directories (hdirectory : ∀ names, root.look names = some none →
      root'.look names = some none)
    (hthere : ∀ names, (root.look names).isSome → (root'.look names).isSome)
    (hwalk : walk root place names = .ok target) : walk root' place names = .ok target := by
  induction names generalizing place with
  | nil => exact hwalk
  | cons name rest ih =>
    rw [walk_cons] at hwalk ⊢
    split at hwalk
    · cases hwalk
    · cases hwalk
    · rename_i hplace
      rw [hdirectory place hplace]
      dsimp only
      split_ifs at hwalk with hup hlong hname
      · rw [if_pos hup]
        exact ih hwalk
      · rw [if_neg hup, if_neg hlong, if_pos (hthere _ hname)]
        exact ih hwalk

/-- No file stands at the names below a place, nor at those that lead there. -/
def Entry.Free (e : Entry) (place names : List String) : Prop :=
  ∀ before, before <+: names → ∀ bytes, e.look (place ++ before) ≠ some (some bytes)

theorem Entry.Free.prefixed {e : Entry} (h : e.Free place names) (hbefore : before <+: names) :
    e.Free place before := fun before' hbefore' => h before' (hbefore'.trans hbefore)

/-- Where no file is in the way, something is missing if names cannot be followed. -/
theorem walk_of_free (hup : up ∉ names)
    (hfits : ∀ name ∈ names, ¬ maxNameLength < name.utf8ByteSize)
    (hplace : root.look place = some none) (hfree : root.Free place names) :
    walk root place names = .ok (place ++ names) ∧ root.look (place ++ names) = some none ∨
      walk root place names = .error (.os .notFound) ∧ root.look (place ++ names) = none := by
  cases hlook : root.look (place ++ names) with
  | some content =>
    refine Or.inl ⟨walk_below hup hfits (by rw [hlook]; simp), ?_⟩
    cases content with
    | none => rfl
    | some bytes => exact absurd hlook (hfree names (List.prefix_refl _) bytes)
  | none =>
    refine Or.inr ⟨?_, rfl⟩
    -- the first name at which nothing stands is where following them ends
    induction names generalizing place with
    | nil =>
      rw [List.append_nil, hplace] at hlook
      cases hlook
    | cons name rest ih =>
      rw [List.mem_cons, not_or] at hup
      rw [List.forall_mem_cons] at hfits
      rw [walk_cons, hplace]
      dsimp only
      rw [if_neg (Ne.symm hup.1), if_neg hfits.1]
      cases hname : root.look (place ++ [name]) with
      | none => simp
      | some content =>
        rw [Option.isSome_some, if_pos rfl]
        refine ih hup.2 hfits.2 ?_ (fun before hbefore bytes => ?_) (by rwa [← List.append_cons])
        · cases content with
          | none => exact hname
          | some bytes => exact absurd hname (hfree [name] (by simp) bytes)
        · have hne := hfree (name :: before) (List.cons_prefix_cons.2 ⟨rfl, hbefore⟩) bytes
          rwa [List.append_cons] at hne

/-! ### Growing -/

/-- Files with some more directories, all of them at places with a property. -/
structure Grown (f g : Files) (Q : List String → Prop) : Prop where
  here : g.here = f.here
  look : ∀ names, g.root.look names = f.root.look names ∨
    f.root.look names = none ∧ g.root.look names = some none ∧ Q names

namespace Grown

variable {Q R : List String → Prop}

theorem refl (f : Files) (Q : List String → Prop) : Grown f f Q := ⟨rfl, fun _ => Or.inl rfl⟩

theorem trans (hg : Grown f g Q) (hh : Grown g h Q) : Grown f h Q where
  here := hh.here.trans hg.here
  look names := by
    rcases hh.look names with heq | ⟨hnone, hnew, hQ⟩
    · rw [heq]
      exact hg.look names
    · rcases hg.look names with heq | ⟨-, hdirectory, -⟩
      · exact Or.inr ⟨heq.symm.trans hnone, hnew, hQ⟩
      · rw [hnone] at hdirectory
        cases hdirectory

/-- The places of the new directories are known better where nothing stood there. -/
theorem mono (hg : Grown f g Q) (hQ : ∀ names, f.root.look names = none → Q names → R names) :
    Grown f g R where
  here := hg.here
  look names := (hg.look names).imp_right fun ⟨hnone, hnew, h⟩ =>
    ⟨hnone, hnew, hQ names hnone h⟩

/-- Files stay as they are, and no others come. -/
theorem file_iff (hg : Grown f g Q) :
    g.root.look names = some (some bytes) ↔ f.root.look names = some (some bytes) := by
  rcases hg.look names with heq | ⟨hnone, hnew, -⟩
  · rw [heq]
  · simp [hnone, hnew]

/-- Directories stay. -/
theorem directory (hg : Grown f g Q) (hdirectory : f.root.look names = some none) :
    g.root.look names = some none := by
  rcases hg.look names with heq | ⟨hnone, -, -⟩
  · exact heq.trans hdirectory
  · rw [hnone] at hdirectory
    cases hdirectory

/-- Where no directory comes nothing changes. -/
theorem look_of_not (hg : Grown f g Q) (hnot : ¬ Q names) : g.root.look names = f.root.look names :=
  (hg.look names).resolve_right fun ⟨_, _, hQ⟩ => hnot hQ

/-- Names that can be followed can be followed still. -/
theorem walk (hg : Grown f g Q) (hwalk : Files.walk f.root from_ names = .ok target) :
    Files.walk g.root from_ names = .ok target := by
  refine walk_of_directories (fun names => hg.directory) (fun names hthere => ?_) hwalk
  rcases hg.look names with heq | ⟨-, hnew, -⟩
  · rwa [heq]
  · rw [hnew]
    rfl

end Grown

/-- Files with a file at names, where no directory was, and some more directories. -/
structure Stored (f g : Files) (Q : List String → Prop) (target : List String) (bytes : ByteArray) :
    Prop where
  here : g.here = f.here
  notDirectory : f.root.look target ≠ some none
  file : g.root.look target = some (some bytes)
  look : ∀ names, names ≠ target → g.root.look names = f.root.look names ∨
    f.root.look names = none ∧ g.root.look names = some none ∧ Q names

/-- A file is written behind the directories that were missing. -/
theorem Grown.stored {Q : List String → Prop} (hg : Grown f g Q) (hp : g.Lands p place name)
    (bytes : ByteArray) :
    Stored f (g.withFile (place ++ [name]) bytes) Q (place ++ [name]) bytes where
  here := hg.here
  notDirectory h := hp.notDirectory (hg.directory h)
  file := by rw [hp.look_withFile, if_pos rfl]
  look names hnames := by
    rw [hp.look_withFile, if_neg hnames]
    exact hg.look names

namespace Stored

variable {Q : List String → Prop} {old : ByteArray}

/-- Other files stay as they are, and no others come. -/
theorem file_iff (hg : Stored f g Q target bytes) (hnames : names ≠ target) :
    g.root.look names = some (some old) ↔ f.root.look names = some (some old) := by
  rcases hg.look names hnames with heq | ⟨hnone, hnew, -⟩
  · rw [heq]
  · simp [hnone, hnew]

/-- Directories stay. -/
theorem directory (hg : Stored f g Q target bytes) (hdirectory : f.root.look names = some none) :
    g.root.look names = some none := by
  have hnames : names ≠ target := by
    rintro rfl
    exact hg.notDirectory hdirectory
  rcases hg.look names hnames with heq | ⟨hnone, -, -⟩
  · exact heq.trans hdirectory
  · rw [hnone] at hdirectory
    cases hdirectory

/-- Names that can be followed can be followed still. -/
theorem walk (hg : Stored f g Q target bytes) {from_ names target' : List String}
    (hwalk : Files.walk f.root from_ names = .ok target') :
    Files.walk g.root from_ names = .ok target' := by
  refine walk_of_directories (fun names => hg.directory) (fun names hthere => ?_) hwalk
  by_cases hnames : names = target
  · rw [hnames, hg.file]
    rfl
  · rcases hg.look names hnames with heq | ⟨-, hnew, -⟩
    · rwa [heq]
    · rw [hnew]
      rfl

end Stored

/-! ### One directory -/

/-- The files with a directory put at names. -/
def withDirectory (f : Files) (target : List String) : Files :=
  { f with root := f.root.put target .empty }

/-- What creating one directory does. -/
theorem createAt_concat (f : Files) (from_ before : List String) (last : String) :
    f.createAt from_ (before ++ [last]) =
      match walk f.root from_ before with
      | .error fault => .error fault
      | .ok place =>
        match f.root.look place with
        | some none =>
          if last = up then .error (.os .alreadyExists)
          else if maxNameLength < last.utf8ByteSize then .error (.os .nameTooLong)
          else if (f.root.look (place ++ [last])).isSome then .error (.os .alreadyExists)
          else .ok (f.withDirectory (place ++ [last]))
        | _ => .error (.os .notADirectory) := by
  rw [createAt, newPlace_concat]
  rcases walk f.root from_ before with fault | place
  · rfl
  · dsimp only
    rcases f.root.look place with _ | _ | _
    · rfl
    · dsimp only
      rw [Entry.look, Option.isSome_map]
      split_ifs with hup hlong hthere
      · rfl
      · rfl
      · exact if_pos hthere
      · exact if_neg hthere
    · rfl

/-- What stands where behind a directory that is put where nothing stood. -/
theorem grown_withDirectory (hplace : f.root.look place = some none)
    (hnone : f.root.look (place ++ [name]) = none) :
    Grown f (f.withDirectory (place ++ [name])) (· = place ++ [name]) ∧
      (f.withDirectory (place ++ [name])).root.look (place ++ [name]) = some none := by
  have hlook : ∀ names, (f.withDirectory (place ++ [name])).root.look names =
      if names = place ++ [name] then some none else f.root.look names :=
    Entry.look_put_empty hplace hnone
  refine ⟨⟨rfl, fun names => ?_⟩, by rw [hlook, if_pos rfl]⟩
  rw [hlook]
  by_cases hnames : names = place ++ [name]
  · rw [if_pos hnames, hnames]
    exact Or.inr ⟨hnone, rfl, rfl⟩
  · exact Or.inl (if_neg hnames)

/-- A directory that is created stands where its names lead. -/
theorem grown_createAt (hcreate : f.createAt from_ (before ++ [name]) = .ok g) :
    Grown f g (· = resolve from_ (before ++ [name])) := by
  rw [createAt_concat] at hcreate
  split at hcreate
  · cases hcreate
  · rename_i place hwalk
    split at hcreate
    · rename_i hplace
      split_ifs at hcreate with hup hlong hthere
      obtain rfl := Except.ok.inj hcreate
      rw [resolve_append, ← eq_resolve_of_walk hwalk, resolve, if_neg hup, resolve_nil]
      exact (grown_withDirectory hplace (by simpa using hthere)).1
    · cases hcreate

/-- A directory is created where there is one above it and nothing stands. -/
theorem createAt_of_none (hwalk : walk f.root from_ before = .ok place)
    (hplace : f.root.look place = some none) (hup : name ≠ up)
    (hfits : ¬ maxNameLength < name.utf8ByteSize)
    (hnone : f.root.look (place ++ [name]) = none) :
    f.createAt from_ (before ++ [name]) = .ok (f.withDirectory (place ++ [name])) := by
  simp only [createAt_concat, hwalk, hplace, hnone, if_neg hup, if_neg hfits, Option.isSome_none,
    Bool.false_eq_true, if_false]

/-- Nothing is created where a directory stands already. -/
theorem createAt_of_walk (hwalk : walk f.root from_ (before ++ [name]) = .ok target) :
    f.createAt from_ (before ++ [name]) = .error (.os .alreadyExists) := by
  obtain ⟨hbefore, hplace⟩ := look_resolve_of_walk hwalk
  rw [walk_append, hbefore] at hwalk
  simp only [walk_cons, hplace] at hwalk
  simp only [createAt_concat, hbefore, hplace]
  split_ifs at hwalk ⊢
  all_goals rfl

/-! ### Directories with those above them -/

theorem isDirectoryAt_iff :
    f.isDirectoryAt from_ names ↔
      ∃ target, walk f.root from_ names = .ok target ∧ f.root.look target = some none := by
  rw [isDirectoryAt]
  rcases walk f.root from_ names with fault | place
  · simp
  · simp only [Except.ok.injEq, exists_eq_left', Entry.look]
    rcases f.root.get? place with _ | _ | _ <;> simp [Entry.bytes?, Entry.isDirectory]

/-- A directory that can be created at once is all that is created. -/
theorem createUpwards_of_createAt (hcreate : f.createAt from_ (before ++ [name]) = .ok g) :
    f.createUpwards from_ (before ++ [name]).reverse = (.ok (), g) := by
  rw [List.reverse_append, List.reverse_singleton, List.singleton_append, createUpwards,
    List.reverse_cons, List.reverse_reverse, hcreate]

/-- A directory that cannot be created for another reason than that something is missing above it
has to be there already. -/
theorem createUpwards_of_fault (hcreate : f.createAt from_ (before ++ [name]) = .error fault)
    (hfault : fault ≠ .os .notFound) :
    f.createUpwards from_ (before ++ [name]).reverse =
      (if f.isDirectoryAt from_ (before ++ [name]) then .ok () else .error fault, f) := by
  rw [List.reverse_append, List.reverse_singleton, List.singleton_append, createUpwards,
    List.reverse_cons, List.reverse_reverse, hcreate]
  exact if_neg hfault

/-- Where something is missing above a directory, that is created first. -/
theorem createUpwards_of_missing
    (hcreate : f.createAt from_ (before ++ [name]) = .error (.os .notFound)) :
    f.createUpwards from_ (before ++ [name]).reverse =
      match f.createUpwards from_ before.reverse with
      | (.error fault, g) => (.error fault, g)
      | (.ok (), g) =>
        match g.createAt from_ (before ++ [name]) with
        | .ok h => (.ok (), h)
        | .error fault =>
          (if g.isDirectoryAt from_ (before ++ [name]) then .ok () else .error fault, g) := by
  rw [List.reverse_append, List.reverse_singleton, List.singleton_append, createUpwards,
    List.reverse_cons, List.reverse_reverse, hcreate]
  exact if_pos rfl

/-- Creating directories only adds directories, each where some of the first names lead. -/
theorem grown_createUpwards (f : Files) (from_ names : List String) :
    Grown f (f.createUpwards from_ names.reverse).2 fun target =>
      ∃ before, before ≠ [] ∧ before <+: names ∧ target = resolve from_ before := by
  induction names using List.reverseRecOn with
  | nil => exact .refl f _
  | append_singleton before name ih =>
    have hself : ∀ target, target = resolve from_ (before ++ [name]) → ∃ before', before' ≠ [] ∧
        before' <+: before ++ [name] ∧ target = resolve from_ before' := fun target htarget =>
      ⟨before ++ [name], by simp, List.prefix_refl _, htarget⟩
    cases hcreate : f.createAt from_ (before ++ [name]) with
    | ok g =>
      rw [createUpwards_of_createAt hcreate]
      exact (grown_createAt hcreate).mono fun target _ => hself target
    | error fault =>
      by_cases hfault : fault = .os .notFound
      · subst hfault
        -- what is created above comes first, and then perhaps the directory itself
        have habove := ih.mono (R := fun target => ∃ before', before' ≠ [] ∧
          before' <+: before ++ [name] ∧ target = resolve from_ before')
          fun target _ ⟨before', hne, hprefix, htarget⟩ =>
            ⟨before', hne, hprefix.trans (List.prefix_append _ _), htarget⟩
        rw [createUpwards_of_missing hcreate]
        rcases hrec : f.createUpwards from_ before.reverse with ⟨fault | ⟨⟩, g⟩
        · rw [hrec] at habove
          exact habove
        · rw [hrec] at habove
          dsimp only
          cases hagain : g.createAt from_ (before ++ [name]) with
          | ok h => exact habove.trans ((grown_createAt hagain).mono fun target _ => hself target)
          | error fault => exact habove
      · rw [createUpwards_of_fault hcreate hfault]
        exact .refl f _

/-- A directory that is there already is left as it is. -/
theorem createUpwards_of_walk (hwalk : walk f.root from_ names = .ok target)
    (hdirectory : f.root.look target = some none) :
    f.createUpwards from_ names.reverse = (.ok (), f) := by
  rcases List.eq_nil_or_concat names with rfl | ⟨before, last, hlast⟩
  · rfl
  · rw [List.concat_eq_append] at hlast
    subst hlast
    rw [createUpwards_of_fault (createAt_of_walk hwalk) (by decide),
      if_pos (isDirectoryAt_iff.2 ⟨target, hwalk, hdirectory⟩)]

/-- Directories below a place: what is created for names that are followed from there. -/
def Below (place names target : List String) : Prop :=
  ∃ before, before ≠ [] ∧ before <+: names ∧ target = place ++ before

theorem Below.concat (h : Below place before target) (name : String) :
    Below place (before ++ [name]) target := by
  obtain ⟨before', hne, hprefix, htarget⟩ := h
  exact ⟨before', hne, hprefix.trans (List.prefix_append _ _), htarget⟩

theorem below_concat (place before : List String) (name : String) :
    Below place (before ++ [name]) (place ++ before ++ [name]) :=
  ⟨before ++ [name], by simp, List.prefix_refl _, List.append_assoc _ _ _⟩

/-- One more name is longer than all that are created for those before. -/
theorem not_below_concat (place before : List String) (name : String) :
    ¬ Below place before (place ++ before ++ [name]) := by
  rintro ⟨before', -, hprefix, htarget⟩
  have hlength := congrArg List.length htarget
  have hle := hprefix.length_le
  simp only [List.length_append, List.length_singleton] at hlength
  omega

/-- The directory of one more name is put behind those of the names before. -/
theorem Grown.below_concat (hgrown : Grown f g (Below place before))
    (hdirectory : g.root.look (place ++ before) = some none)
    (hnone : g.root.look (place ++ before ++ [name]) = none) :
    Grown f (g.withDirectory (place ++ before ++ [name])) (Below place (before ++ [name])) := by
  refine (hgrown.mono fun target _ htarget => htarget.concat name).trans
    ((grown_withDirectory hdirectory hnone).1.mono ?_)
  rintro target - rfl
  exact Files.below_concat place before name

/-- A directory whose parent is missing is created behind what is created for the parent. -/
theorem createUpwards_of_parent (hmissing : walk f.root from_ before = .error (.os .notFound))
    (hrec : f.createUpwards from_ before.reverse = (.ok (), g))
    (hwalk : walk g.root from_ before = .ok place) (hplace : g.root.look place = some none)
    (hup : name ≠ up) (hfits : ¬ maxNameLength < name.utf8ByteSize)
    (hnone : g.root.look (place ++ [name]) = none) :
    f.createUpwards from_ (before ++ [name]).reverse =
      (.ok (), g.withDirectory (place ++ [name])) := by
  have hcreate : f.createAt from_ (before ++ [name]) = .error (.os .notFound) := by
    simp only [createAt_concat, hmissing]
  simp only [createUpwards_of_missing hcreate, hrec,
    createAt_of_none hwalk hplace hup hfits hnone]

/-- Behind names that lead to a directory all directories are created, if no file is in the way. -/
theorem createUpwards_of_free {base names : List String}
    (hwalk : walk f.root from_ base = .ok place) (hplace : f.root.look place = some none)
    (hup : up ∉ names) (hfits : ∀ name ∈ names, ¬ maxNameLength < name.utf8ByteSize)
    (hfree : f.root.Free place names) :
    ∃ g, f.createUpwards from_ (base ++ names).reverse = (.ok (), g) ∧
      g.root.look (place ++ names) = some none ∧ Grown f g (Below place names) := by
  induction names using List.reverseRecOn with
  | nil =>
    rw [List.append_nil, List.append_nil]
    exact ⟨f, createUpwards_of_walk hwalk hplace, hplace, .refl f _⟩
  | append_singleton before name ih =>
    have hup' : up ∉ before := fun h => hup (List.mem_append_left _ h)
    have hname : name ≠ up := fun h => hup (by simp [h])
    have hfits' : ∀ name ∈ before, ¬ maxNameLength < name.utf8ByteSize :=
      fun n hn => hfits n (List.mem_append_left _ hn)
    have hlong : ¬ maxNameLength < name.utf8ByteSize := hfits name (by simp)
    have hfree' := hfree.prefixed (List.prefix_append before [name])
    have hwalks := walk_of_free hup hfits hplace hfree
    rw [← walk_append_of_walk hwalk, ← List.append_assoc, ← List.append_assoc] at hwalks
    rw [← List.append_assoc, ← List.append_assoc]
    rcases walk_of_free hup' hfits' hplace hfree' with ⟨hbefore, hdirectory⟩ | ⟨hbefore, hmissing⟩
    · -- all directories above are there, and perhaps this one, too
      rcases hwalks with ⟨hthere, hlook⟩ | ⟨-, hnone⟩
      · exact ⟨f, createUpwards_of_walk hthere hlook, hlook, .refl f _⟩
      · have habove := (walk_append_of_walk hwalk before).trans hbefore
        exact ⟨_, createUpwards_of_createAt (createAt_of_none habove hdirectory hname hlong hnone),
          (grown_withDirectory hdirectory hnone).2, (Grown.refl f _).below_concat hdirectory hnone⟩
    · -- those above come first, and nothing of them stands where this one is put
      obtain ⟨g, hrec, hdirectory, hgrown⟩ := ih hup' hfits' hfree'
      have hnone : g.root.look (place ++ before ++ [name]) = none := by
        rw [hgrown.look_of_not (not_below_concat place before name)]
        exact Entry.look_append_of_none hmissing [name]
      have habove : walk g.root from_ (base ++ before) = .ok (place ++ before) := by
        rw [walk_append_of_walk (hgrown.walk hwalk)]
        exact walk_below hup' hfits' (by rw [hdirectory]; simp)
      exact ⟨_, createUpwards_of_parent ((walk_append_of_walk hwalk before).trans hbefore) hrec
          habove hdirectory hname hlong hnone,
        (grown_withDirectory hdirectory hnone).2, hgrown.below_concat hdirectory hnone⟩

/-- Nothing is created where a file stands. -/
theorem createUpwards_of_file_at (hwalk : walk f.root from_ names = .ok target)
    (hfile : f.root.look target = some (some bytes)) (hne : names ≠ []) :
    f.createUpwards from_ names.reverse = (.error (.os .alreadyExists), f) := by
  obtain ⟨before, last, hnames⟩ := (List.eq_nil_or_concat names).resolve_left hne
  rw [List.concat_eq_append] at hnames
  subst hnames
  rw [createUpwards_of_fault (createAt_of_walk hwalk) (by decide), if_neg]
  rw [isDirectoryAt_iff, hwalk]
  rintro ⟨target', htarget, hdirectory⟩
  obtain rfl := Except.ok.inj htarget
  rw [hfile] at hdirectory
  cases hdirectory

/-- Nothing is created below a file. -/
theorem createUpwards_of_file_above (hwalk : walk f.root from_ before = .ok place)
    (hfile : f.root.look place = some (some bytes)) (hne : rest ≠ []) :
    f.createUpwards from_ (before ++ rest).reverse = (.error (.os .notADirectory), f) := by
  have hblocked : ∀ name more, walk f.root from_ (before ++ name :: more) =
      .error (.os .notADirectory) := fun name more => by
    rw [walk_append_of_walk hwalk, walk_cons, hfile]
  obtain ⟨middle, last, hrest⟩ := (List.eq_nil_or_concat rest).resolve_left hne
  rw [List.concat_eq_append] at hrest
  subst hrest
  have hcreate : f.createAt from_ (before ++ middle ++ [last]) = .error (.os .notADirectory) := by
    cases middle with
    | nil => simp only [createAt_concat, List.append_nil, hwalk, hfile]
    | cons name middle => simp only [createAt_concat, hblocked]
  rw [← List.append_assoc, createUpwards_of_fault hcreate (by decide), if_neg]
  rw [isDirectoryAt_iff, List.append_assoc]
  rintro ⟨target, htarget, -⟩
  obtain ⟨name, more, hmore⟩ := List.exists_cons_of_ne_nil hne
  rw [hmore, hblocked] at htarget
  cases htarget

/-- Where a file is in the way nothing is created. -/
theorem createUpwards_of_file {base names : List String}
    (hwalk : walk f.root from_ base = .ok place) (hup : up ∉ names)
    (hfits : ∀ name ∈ names, ¬ maxNameLength < name.utf8ByteSize) (hbefore : before <+: names)
    (hne : before ≠ []) (hfile : f.root.look (place ++ before) = some (some bytes)) :
    ∃ fault, f.createUpwards from_ (base ++ names).reverse = (.error fault, f) := by
  obtain ⟨rest, rfl⟩ := hbefore
  have hall : walk f.root from_ (base ++ before) = .ok (place ++ before) := by
    rw [walk_append_of_walk hwalk]
    exact walk_below (fun h => hup (List.mem_append_left _ h))
      (fun name hname => hfits name (List.mem_append_left _ hname)) (by rw [hfile]; simp)
  rw [← List.append_assoc]
  by_cases hrest : rest = []
  · rw [hrest, List.append_nil]
    exact ⟨_, createUpwards_of_file_at hall hfile (List.append_ne_nil_of_right_ne_nil base hne)⟩
  · exact ⟨_, createUpwards_of_file_above hall hfile hrest⟩

/-- Where a path starts that names something, there is no fault but that it may be empty. -/
theorem noFault_of_prefix {q : Path} (hp : pathFault? p = none)
    (hq : q.text.toList <+: p.text.toList) :
    '\x00' ∉ q.text.toList ∧ q.text.utf8ByteSize ≤ maxPathLength := by
  obtain ⟨-, hzero, hlength⟩ := pathFault?_eq_none_iff.1 hp
  refine ⟨fun h => hzero (hq.subset h), ?_⟩
  obtain ⟨rest, hrest⟩ := hq
  have happend : p.text = q.text ++ String.ofList rest := by
    rw [← String.toList_inj, String.toList_append, String.toList_ofList, hrest]
  rw [happend, String.utf8ByteSize_append] at hlength
  omega

/-- A path without the character with the number zero that is not too long is gone up name by
name. -/
theorem createDirectories_eq (hzero : '\x00' ∉ p.text.toList)
    (hlength : p.text.utf8ByteSize ≤ maxPathLength) :
    f.createDirectories p = f.createUpwards (f.start p) p.names.reverse := by
  rw [createDirectories]
  by_cases hempty : p.text.isEmpty
  · rw [if_pos hempty]
    have htext : p.text = "" := by simpa using hempty
    have hnames : p.names = [] := by
      rw [Path.names_eq, htext]
      rfl
    rw [hnames]
    rfl
  · rw [if_neg hempty, pathFault?_eq_none_iff.2 ⟨by simpa using hempty, hzero, hlength⟩]

/-- Creating the directories of a path only adds directories. -/
theorem grown_createDirectories (f : Files) (p : Path) :
    Grown f (f.createDirectories p).2 fun target =>
      ∃ before, before ≠ [] ∧ before <+: p.names ∧ target = resolve (f.start p) before := by
  rw [createDirectories]
  split_ifs
  · exact .refl f _
  · split
    · exact .refl f _
    · exact grown_createUpwards f _ p.names

end DeploySync.Files
