import DeploySync.Files.Entry
import DeploySync.Path

/-!
# Files in memory

A tree of files with a working directory. Paths are resolved as a Unix system resolves them: every
name before the last one has to be a directory, `..` goes up, and an empty path is nowhere.

## Main definitions

* `Files` — a tree and a working directory
* `Files.locate` — the names that lead from the root to what a path names
* `Files.read`, `Files.write`, `Files.createDirectory`, `Files.createDirectories`,
  `Files.remove` — the operations
-/

namespace DeploySync

/-- A tree of files, and the names of the working directory. -/
structure Files where
  root : Files.Entry
  here : List String := []

namespace Files

/-- The name for one level up. -/
def up : String := ".."

/-- Names may have this many bytes. -/
def maxNameLength : Nat := 255

/-- Paths may have this many bytes. -/
def maxPathLength : Nat := 4095

/-- Goes down from a place, name by name. -/
def walk (root : Entry) : (place : List String) → List String → Except FileFault (List String)
  | place, [] => .ok place
  | place, name :: rest =>
    match root.get? place with
    | none => .error (.os .notFound)
    | some (.file _) => .error (.os .notADirectory)
    | some (.directory entries) =>
      if name = up then walk root place.dropLast rest
      else if maxNameLength < name.utf8ByteSize then .error (.os .nameTooLong)
      else if (entries.lookup name).isSome then walk root (place ++ [name]) rest
      else .error (.os .notFound)

/-- The place from which a path goes on. -/
def start (f : Files) (p : Path) : List String := if p.isAbsolute then [] else f.here

/-- A path that names nothing at all. -/
def pathFault? (p : Path) : Option FileFault :=
  if p.text.isEmpty then some (.os .notFound)
  else if p.text.toList.contains '\x00' then some .zeroInName
  else if maxPathLength < p.text.utf8ByteSize then some (.os .nameTooLong)
  else none

/-- The names that lead from the root to what a path names. -/
def locate (f : Files) (p : Path) : Except FileFault (List String) :=
  match pathFault? p with
  | some fault => .error fault
  | none =>
    match walk f.root (f.start p) p.names with
    | .error fault => .error fault
    | .ok place =>
      match f.root.get? place with
      | some (.file _) =>
        if p.namesDirectory then .error (.os .notADirectory) else .ok place
      | _ => .ok place

/-- What a path names. -/
def entry? (f : Files) (p : Path) : Option Entry :=
  match f.locate p with
  | .ok place => f.root.get? place
  | .error _ => none

/-- The path names a directory. -/
def isDirectory (f : Files) (p : Path) : Bool := (f.entry? p).any (·.isDirectory)

/-- The path names a file. -/
def isFile (f : Files) (p : Path) : Bool := (f.entry? p).any (! ·.isDirectory)

/-- The path names a file or a directory. -/
def holds (f : Files) (p : Path) : Bool := (f.entry? p).isSome

/-- The bytes of a file. -/
def read (f : Files) (p : Path) : Except FileFault ByteArray :=
  match f.locate p with
  | .error fault => .error fault
  | .ok place =>
    match f.root.get? place with
    | some (.file bytes) => .ok bytes
    | some (.directory _) => .error (.os .isADirectory)
    | none => .error (.os .notFound)

/-- The place of something new: the directory it is to stand in, and its name. Nothing if the path
ends at no name. -/
def newPlace (f : Files) (from_ : List String) (names : List String) :
    Except FileFault (Option (List String × String)) :=
  match names.getLast? with
  | none => .ok none
  | some last =>
    match walk f.root from_ names.dropLast with
    | .error fault => .error fault
    | .ok place =>
      match f.root.get? place with
      | some (.directory _) =>
        if last = up then .ok none
        else if maxNameLength < last.utf8ByteSize then .error (.os .nameTooLong)
        else .ok (some (place, last))
      | _ => .error (.os .notADirectory)

/-- Writes the bytes of a file; what it held is gone. -/
def write (f : Files) (p : Path) (bytes : ByteArray) : Except FileFault Files :=
  match pathFault? p with
  | some fault => .error fault
  | none =>
    match f.newPlace (f.start p) p.names with
    | .error fault => .error fault
    | .ok none => .error (.os .isADirectory)
    | .ok (some (place, name)) =>
      match f.root.get? (place ++ [name]) with
      | some (.directory _) => .error (.os .isADirectory)
      | _ =>
        if p.namesDirectory then .error (.os .isADirectory)
        else .ok { f with root := f.root.put (place ++ [name]) (.file bytes) }

/-- Creates one directory at names behind a place. -/
def createAt (f : Files) (from_ names : List String) : Except FileFault Files :=
  match f.newPlace from_ names with
  | .error fault => .error fault
  | .ok none => .error (.os .alreadyExists)
  | .ok (some (place, name)) =>
    if (f.root.get? (place ++ [name])).isSome then .error (.os .alreadyExists)
    else .ok { f with root := f.root.put (place ++ [name]) .empty }

/-- A directory stands at names behind a place. -/
def isDirectoryAt (f : Files) (from_ names : List String) : Bool :=
  match walk f.root from_ names with
  | .ok place => (f.root.get? place).any (·.isDirectory)
  | .error _ => false

/-- Creates a directory with those above it that are missing; the names come last one first. What
was created stays, also if the rest cannot be. -/
def createUpwards (f : Files) (from_ : List String) :
    List String → Except FileFault Unit × Files
  | [] => (.ok (), f)
  | name :: above =>
    let names := (name :: above).reverse
    let kept (f : Files) (fault : FileFault) : Except FileFault Unit × Files :=
      (if f.isDirectoryAt from_ names then .ok () else .error fault, f)
    match f.createAt from_ names with
    | .ok f => (.ok (), f)
    | .error fault =>
      if fault = .os .notFound then
        match f.createUpwards from_ above with
        | (.error fault, f) => (.error fault, f)
        | (.ok (), f) =>
          match f.createAt from_ names with
          | .ok f => (.ok (), f)
          | .error fault => kept f fault
      else kept f fault

/-- Creates a directory with those above it that are missing. One that is there already is left as
it is. -/
def createDirectories (f : Files) (p : Path) : Except FileFault Unit × Files :=
  if p.text.isEmpty then (.ok (), f)
  else
    match pathFault? p with
    | some fault => (.error fault, f)
    | none => f.createUpwards (f.start p) p.names.reverse

/-- Removes a file, or a directory with everything below it. -/
def remove (f : Files) (p : Path) : Except FileFault Files :=
  match f.locate p with
  | .error fault => .error fault
  | .ok place => .ok { f with root := f.root.remove place }

end Files

end DeploySync
