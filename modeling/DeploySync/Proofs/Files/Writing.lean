import DeploySync.Proofs.Files.Tree
import DeploySync.Proofs.Path

/-!
# Writing files

A write either fails or puts one file into a directory, and then everything else can be read as
before. Whether a write succeeds depends on the directories only, so that files that are written in
between do not matter.

## Main definitions

* `Files.Lands` — a write to a path puts a file into a directory under a name
* `Files.Writable` — a write to a path succeeds
* `Files.StandsAt` — a path names a directory at a place

## Main results

* `Files.write_eq_ok_iff` — what a write does
* `Files.Lands.read_withFile` — what was written is read back
* `Files.Lands.read_withFile_of_ne` — other files stay as they are
* `Files.Lands.withFile` — a write leaves the places of other writes as they are
* `Files.writable_join_iff` — the files that can be written in a directory
* `Files.StandsAt.landsAt`, `Files.StandsAt.read_join_congr` — what is written and read under a name
  in a directory
-/

namespace DeploySync.Files

variable {f g : Files} {p q : Path} {place place' : List String} {name name' : String}
variable {bytes : ByteArray}

/-- A write to a path puts a file into the directory at a place, under a name. -/
structure Lands (f : Files) (p : Path) (place : List String) (name : String) : Prop where
  path : pathFault? p = none
  names : p.names = p.names.dropLast ++ [name]
  walk : walk f.root (f.start p) p.names.dropLast = .ok place
  directory : f.root.look place = some none
  notUp : name ≠ up
  fits : ¬ maxNameLength < name.utf8ByteSize
  notDirectory : f.root.look (place ++ [name]) ≠ some none
  isName : p.namesDirectory = false

/-- A write to the path succeeds, whatever is written. -/
def Writable (f : Files) (p : Path) : Prop := ∃ place name, f.Lands p place name

/-- The files with a file put at names. -/
def withFile (f : Files) (target : List String) (bytes : ByteArray) : Files :=
  { f with root := f.root.put target (.file bytes) }

/-! ### What a write does -/

/-- The place of something new depends on what stands in the tree only. -/
theorem newPlace_concat (f : Files) (from_ before : List String) (last : String) :
    f.newPlace from_ (before ++ [last]) =
      match Files.walk f.root from_ before with
      | .error fault => .error fault
      | .ok place =>
        match f.root.look place with
        | some none =>
          if last = up then .ok none
          else if maxNameLength < last.utf8ByteSize then .error (.os .nameTooLong)
          else .ok (some (place, last))
        | _ => .error (.os .notADirectory) := by
  rw [newPlace, List.getLast?_concat, List.dropLast_concat]
  rcases Files.walk f.root from_ before with fault | place
  · rfl
  · dsimp only
    rw [Entry.look]
    rcases f.root.get? place with _ | _ | _ <;> rfl

/-- The directory and the name of something new are those that the names lead to. -/
theorem newPlace_eq_ok_iff {from_ names : List String} :
    f.newPlace from_ names = .ok (some (place, name)) ↔
      names = names.dropLast ++ [name] ∧ Files.walk f.root from_ names.dropLast = .ok place ∧
        f.root.look place = some none ∧ name ≠ up ∧ ¬ maxNameLength < name.utf8ByteSize := by
  rcases List.eq_nil_or_concat names with hnil | ⟨before, last, hnames⟩
  · simp [newPlace, hnil]
  · rw [List.concat_eq_append] at hnames
    rw [hnames, newPlace_concat, List.dropLast_concat]
    constructor
    · -- each of the four ways to fail contradicts what was found
      intro h
      rcases hwalk : Files.walk f.root from_ before with fault | dir
      · simp [hwalk] at h
      · rcases hdir : f.root.look dir with _ | _ | _
        · simp [hwalk, hdir] at h
        · simp only [hwalk, hdir] at h
          split_ifs at h with hup hlong
          · simp at h
          · obtain ⟨rfl, rfl⟩ := Prod.mk.inj (Option.some.inj (Except.ok.inj h))
            exact ⟨rfl, rfl, hdir, hup, hlong⟩
        · simp [hwalk, hdir] at h
    · rintro ⟨hlast, hwalk, hdirectory, hup, hfits⟩
      obtain rfl : last = name := by simpa using hlast
      simp only [hwalk, hdirectory, if_neg hup, if_neg hfits]

/-- A write succeeds exactly if it puts a file into a directory, and then it does just that. -/
theorem write_eq_ok_iff :
    f.write p bytes = .ok g ↔
      ∃ place name, f.Lands p place name ∧ g = f.withFile (place ++ [name]) bytes := by
  constructor
  · intro h
    rw [write] at h
    split at h
    · cases h
    · rename_i hpath
      split at h
      · cases h
      · cases h
      · rename_i place name hnew
        obtain ⟨hnames, hwalk, hdirectory, hup, hfits⟩ := newPlace_eq_ok_iff.1 hnew
        split at h
        · cases h
        · rename_i hnone
          split_ifs at h with hend
          refine ⟨place, name,
            ⟨hpath, hnames, hwalk, hdirectory, hup, hfits, ?_, by simpa using hend⟩,
            (Except.ok.inj h).symm⟩
          -- a directory in the place of the file would have been found
          intro hlook
          obtain ⟨entries, hentries⟩ := Entry.look_eq_directory hlook
          exact hnone entries hentries
  · rintro ⟨place, name, hp, rfl⟩
    have hnew := newPlace_eq_ok_iff.2 ⟨hp.names, hp.walk, hp.directory, hp.notUp, hp.fits⟩
    rw [write, hp.path, hnew, hp.isName]
    dsimp only
    split
    · rename_i entries hentries
      refine absurd ?_ hp.notDirectory
      rw [Entry.look, hentries, Option.map_some, Entry.bytes?]
    · rfl

/-! ### What paths name -/

/-- What a path names depends on what stands in the tree only. -/
theorem locate_eq (f : Files) (p : Path) :
    f.locate p =
      match pathFault? p with
      | some fault => .error fault
      | none =>
        match Files.walk f.root (f.start p) p.names with
        | .error fault => .error fault
        | .ok place =>
          match f.root.look place with
          | some (some _) => if p.namesDirectory then .error (.os .notADirectory) else .ok place
          | _ => .ok place := by
  rw [locate]
  rcases pathFault? p with _ | fault
  · rcases Files.walk f.root (f.start p) p.names with fault | place
    · rfl
    · dsimp only
      rw [Entry.look]
      rcases f.root.get? place with _ | _ | _ <;> rfl
  · rfl

theorem read_eq_ok_iff :
    f.read p = .ok bytes ↔
      ∃ place, f.locate p = .ok place ∧ f.root.look place = some (some bytes) := by
  rw [read]
  rcases f.locate p with fault | place
  · simp
  · simp only [Except.ok.injEq, exists_eq_left', Entry.look]
    rcases f.root.get? place with _ | _ | _ <;> simp [Entry.bytes?]

/-- What is read depends on what stands in the tree only. -/
theorem read_eq (f : Files) (p : Path) :
    f.read p =
      match f.locate p with
      | .error fault => .error fault
      | .ok place =>
        match f.root.look place with
        | some (some bytes) => .ok bytes
        | some none => .error (.os .isADirectory)
        | none => .error (.os .notFound) := by
  rw [read]
  rcases f.locate p with fault | place
  · rfl
  · dsimp only
    rw [Entry.look]
    rcases f.root.get? place with _ | _ | _ <;> rfl

theorem isDirectory_iff :
    f.isDirectory p ↔ ∃ place, f.locate p = .ok place ∧ f.root.look place = some none := by
  rw [isDirectory, entry?]
  rcases f.locate p with fault | place
  · simp
  · simp only [Except.ok.injEq, exists_eq_left', Entry.look]
    rcases f.root.get? place with _ | _ | _ <;> simp [Entry.bytes?, Entry.isDirectory]

/-- The path names a directory, which stands at a place. -/
structure StandsAt (f : Files) (dir : Path) (place : List String) : Prop where
  locate : f.locate dir = .ok place
  look : f.root.look place = some none

/-- A path that can be located leads to its place name by name. -/
theorem walk_of_locate (h : f.locate p = .ok place) :
    pathFault? p = none ∧ Files.walk f.root (f.start p) p.names = .ok place := by
  rw [locate_eq] at h
  rcases hpath : pathFault? p with _ | fault
  · rcases hwalk : Files.walk f.root (f.start p) p.names with fault | place'
    · simp [hpath, hwalk] at h
    · refine ⟨rfl, ?_⟩
      simp only [hpath, hwalk] at h
      split at h
      · split_ifs at h
        exact h
      · exact h
  · simp [hpath] at h

namespace Lands

/-- What stands where behind a write. -/
theorem look_withFile (hp : f.Lands p place name) (bytes : ByteArray) (names : List String) :
    (f.withFile (place ++ [name]) bytes).root.look names =
      if names = place ++ [name] then some (some bytes) else f.root.look names :=
  Entry.look_put hp.directory hp.notDirectory names

/-- Directories stay what they are behind a write, and no others come. -/
theorem directory_withFile_iff (hp : f.Lands p place name) (bytes : ByteArray)
    (names : List String) :
    (f.withFile (place ++ [name]) bytes).root.look names = some none ↔
      f.root.look names = some none := by
  rw [hp.look_withFile]
  split_ifs with h
  · subst h
    simpa using hp.notDirectory
  · rfl

/-- Names that lead somewhere lead there behind a write, too. -/
theorem walk_withFile (hp : f.Lands p place name) (bytes : ByteArray) {from_ names : List String}
    {place' : List String} (h : Files.walk f.root from_ names = .ok place') :
    Files.walk (f.withFile (place ++ [name]) bytes).root from_ names = .ok place' := by
  rcases walk_put hp.notDirectory (hp.look_withFile bytes) from_ names with heq | ⟨-, hmissing⟩
  · rw [heq, h]
  · rw [h] at hmissing
    cases hmissing

/-- A write leaves the places of other writes as they are. -/
theorem withFile (hq : f.Lands q place' name') (hp : f.Lands p place name) (bytes : ByteArray) :
    (f.withFile (place ++ [name]) bytes).Lands q place' name' where
  path := hq.path
  names := hq.names
  walk := hp.walk_withFile bytes hq.walk
  directory := (hp.directory_withFile_iff bytes _).2 hq.directory
  notUp := hq.notUp
  fits := hq.fits
  notDirectory h := hq.notDirectory ((hp.directory_withFile_iff bytes _).1 h)
  isName := hq.isName

/-- What a path names it names behind a write, too, if the same stands there. -/
theorem locate_withFile (hp : f.Lands p place name) (bytes : ByteArray) {target : List String}
    (hq : f.locate q = .ok target)
    (hlook : (f.withFile (place ++ [name]) bytes).root.look target = f.root.look target) :
    (f.withFile (place ++ [name]) bytes).locate q = .ok target := by
  obtain ⟨hpath, hwalk⟩ := walk_of_locate hq
  have hwalk' := hp.walk_withFile bytes hwalk
  change Files.walk _ ((f.withFile (place ++ [name]) bytes).start q) q.names = _ at hwalk'
  rw [locate_eq] at hq ⊢
  simp only [hpath, hwalk] at hq
  simp only [hpath, hwalk', hlook, hq]

/-- A directory stays where it is behind a write. -/
theorem standsAt_withFile (hp : f.Lands p place name) (bytes : ByteArray) {target : List String}
    (hq : f.StandsAt q target) : (f.withFile (place ++ [name]) bytes).StandsAt q target := by
  have hlook := (hp.directory_withFile_iff bytes target).2 hq.look
  exact ⟨hp.locate_withFile bytes hq.locate (hlook.trans hq.look.symm), hlook⟩

/-- A path that names a directory names one behind a write, too. -/
theorem isDirectory_withFile (hp : f.Lands p place name) (bytes : ByteArray)
    (hq : f.isDirectory q) : (f.withFile (place ++ [name]) bytes).isDirectory q := by
  obtain ⟨target, hlocate, hlook⟩ := isDirectory_iff.1 hq
  have hstands := hp.standsAt_withFile bytes ⟨hlocate, hlook⟩
  exact isDirectory_iff.2 ⟨target, hstands.locate, hstands.look⟩

/-- Where the names of the path of a write lead. -/
theorem walk_names (hp : f.Lands p place name) :
    Files.walk f.root (f.start p) p.names =
      if (f.root.look (place ++ [name])).isSome then .ok (place ++ [name])
      else .error (.os .notFound) := by
  rw [hp.names, walk_append, hp.walk]
  simp only [walk_cons, hp.directory, if_neg hp.notUp, if_neg hp.fits, walk_nil]

/-- What the path of a write names, once something stands there. -/
theorem locate_of_look (hp : f.Lands p place name) {content : Option ByteArray}
    (h : f.root.look (place ++ [name]) = some content) : f.locate p = .ok (place ++ [name]) := by
  have hwalk := hp.walk_names
  rw [h, Option.isSome_some, if_pos rfl] at hwalk
  simp only [locate_eq, hp.path, hwalk, hp.isName, Bool.false_eq_true, if_false]
  split <;> rfl

/-- The path of a write names no directory. -/
theorem not_isDirectory (hp : f.Lands p place name) : ¬ f.isDirectory p := by
  intro h
  obtain ⟨target, hlocate, hlook⟩ := isDirectory_iff.1 h
  have hwalk := (walk_of_locate hlocate).2
  rw [hp.walk_names] at hwalk
  split_ifs at hwalk
  obtain rfl := Except.ok.inj hwalk
  exact hp.notDirectory hlook

/-- What was written is read back. -/
theorem read_withFile (hp : f.Lands p place name) (bytes : ByteArray) :
    (f.withFile (place ++ [name]) bytes).read p = .ok bytes := by
  have hlook := hp.look_withFile bytes (place ++ [name])
  rw [if_pos rfl] at hlook
  exact read_eq_ok_iff.2 ⟨_, (hp.withFile hp bytes).locate_of_look hlook, hlook⟩

/-- A file that the path of a write does not name stays as it is. -/
theorem read_withFile_of_ne (hp : f.Lands p place name) {bytes old : ByteArray}
    (hq : f.read q = .ok old) (hne : f.locate q ≠ f.locate p) :
    (f.withFile (place ++ [name]) bytes).read q = .ok old := by
  obtain ⟨target, hlocate, hlook⟩ := read_eq_ok_iff.1 hq
  -- the file stands elsewhere, so that it is still there
  have htarget : target ≠ place ++ [name] := by
    rintro rfl
    exact hne (hlocate.trans (hp.locate_of_look hlook).symm)
  have hlook' := hp.look_withFile bytes target
  rw [if_neg htarget] at hlook'
  exact read_eq_ok_iff.2 ⟨target, hp.locate_withFile bytes hlocate hlook', hlook'.trans hlook⟩

end Lands

/-! ### Files in a directory -/

/-- A text that can be the name of a file. -/
structure IsFileName (file : String) : Prop extends Path.IsName file where
  zero : '\x00' ∉ file.toList
  notUp : file ≠ up
  fits : ¬ maxNameLength < file.utf8ByteSize

theorem pathFault?_eq_none_iff :
    pathFault? p = none ↔
      p.text.isEmpty = false ∧ '\x00' ∉ p.text.toList ∧ p.text.utf8ByteSize ≤ maxPathLength := by
  rw [pathFault?]
  split_ifs with hempty hzero hlong
  · simp [hempty]
  · simpa using fun _ h => absurd (by simpa using hzero) h
  · simpa using fun _ _ => hlong
  · simpa using ⟨by simpa using hempty, by simpa using hzero, by simpa using hlong⟩

variable {dir : Path} {file : String}

theorem start_join (f : Files) (hfile : Path.IsName file) :
    f.start (dir.join file) = f.start dir := by
  rw [start, start, Path.isAbsolute_join hfile]

/-- What a name in a directory names. -/
theorem StandsAt.locate_join (hdir : f.StandsAt dir place) (hfile : IsFileName file) :
    f.locate (dir.join file) =
      match pathFault? (dir.join file) with
      | some fault => .error fault
      | none =>
        if (f.root.look (place ++ [file])).isSome then .ok (place ++ [file])
        else .error (.os .notFound) := by
  obtain ⟨-, hwalk⟩ := walk_of_locate hdir.locate
  rw [locate_eq, Path.names_join hfile.toIsName, walk_append, start_join f hfile.toIsName, hwalk,
    Path.namesDirectory_join hfile.toIsName]
  simp only [walk_cons, hdir.look, if_neg hfile.notUp, if_neg hfile.fits, walk_nil,
    Bool.false_eq_true, if_false]
  rcases pathFault? (dir.join file) with _ | fault
  · by_cases hthere : (f.root.look (place ++ [file])).isSome
    · rw [if_pos hthere]
      dsimp only
      split <;> rfl
    · rw [if_neg hthere]
  · rfl

/-- In a directory every file can be written whose path is not too long, unless there is a directory
of its name. -/
theorem writable_join_iff (hdir : f.isDirectory dir) (hfile : IsFileName file) :
    f.Writable (dir.join file) ↔
      ¬ f.isDirectory (dir.join file) ∧ (dir.join file).text.utf8ByteSize ≤ maxPathLength := by
  obtain ⟨place, hlocate, hlook⟩ := isDirectory_iff.1 hdir
  obtain ⟨hpath, hwalk⟩ := walk_of_locate hlocate
  obtain ⟨hempty, hzero, -⟩ := pathFault?_eq_none_iff.1 hpath
  constructor
  · rintro ⟨place, name, hp⟩
    exact ⟨hp.not_isDirectory, (pathFault?_eq_none_iff.1 hp.path).2.2⟩
  · rintro ⟨hnot, hlength⟩
    have hnames : (dir.join file).names = dir.names ++ [file] := Path.names_join hfile.toIsName
    -- no zero byte comes with the name, and the directory's path has none
    have hpath' : pathFault? (dir.join file) = none := by
      obtain ⟨s, hjoin, hs⟩ := Path.toList_join hempty hfile.toIsName
      refine pathFault?_eq_none_iff.2 ⟨?_, ?_, hlength⟩
      · rw [String.isEmpty_eq_false_iff, Ne, ← String.toList_eq_nil_iff, hjoin]
        simp
      · rw [hjoin]
        rcases hs with hs | hs <;> rw [hs] at hzero <;> simpa [hfile.zero] using hzero
    have hwalk' : Files.walk f.root (f.start (dir.join file)) (dir.join file).names.dropLast =
        .ok place := by
      rw [hnames, List.dropLast_concat, start_join f hfile.toIsName, hwalk]
    refine ⟨place, file, hpath', by rw [hnames, List.dropLast_concat], hwalk', hlook, hfile.notUp,
      hfile.fits, fun hdirectory => hnot ?_, Path.namesDirectory_join hfile.toIsName⟩
    -- a directory of the name would be what the path names
    refine isDirectory_iff.2 ⟨place ++ [file], ?_, hdirectory⟩
    rw [StandsAt.locate_join ⟨hlocate, hlook⟩ hfile, hpath', hdirectory]
    rfl

namespace StandsAt

/-- A write to a name in a directory lands there under this name. -/
theorem landsAt (hdir : f.StandsAt dir place) (hfile : Path.IsName file)
    (hp : f.Lands (dir.join file) place' name) : place' = place ∧ name = file := by
  obtain ⟨-, hwalk⟩ := walk_of_locate hdir.locate
  have hnames := hp.names
  have hwalk' := hp.walk
  rw [Path.names_join hfile, List.dropLast_concat] at hnames hwalk'
  rw [start_join f hfile, hwalk] at hwalk'
  exact ⟨(Except.ok.inj hwalk').symm, by simpa using hnames.symm⟩

/-- What is read under a name in a directory depends on what stands there only. -/
theorem read_join_congr (hf : f.StandsAt dir place) (hg : g.StandsAt dir place)
    (hfile : IsFileName file)
    (hlook : f.root.look (place ++ [file]) = g.root.look (place ++ [file])) :
    f.read (dir.join file) = g.read (dir.join file) := by
  rw [read_eq, read_eq, hf.locate_join hfile, hg.locate_join hfile, hlook]
  rcases pathFault? (dir.join file) with _ | fault
  · dsimp only
    by_cases hthere : (g.root.look (place ++ [file])).isSome
    · rw [if_pos hthere]
      dsimp only
      rw [hlook]
    · rw [if_neg hthere]
  · rfl

end StandsAt

end DeploySync.Files
