import DeploySync.OsError
import DeploySync.Table

/-!
# Trees of files

## Main definitions

* `Files.Entry` — a file with its bytes, or a directory with its entries
* `Files.Entry.get?` — what stands at a list of names
* `Files.Entry.put`, `Files.Entry.remove` — a tree with an entry put at a list of names, or without
  it
* `Files.Entry.listing` — everything below an entry, with its names
-/

namespace DeploySync.Files

/-- A file with its bytes, or a directory with its entries by name. -/
inductive Entry where
  | file (bytes : ByteArray)
  | directory (entries : List (String × Entry))

namespace Entry

/-- A directory without entries. -/
def empty : Entry := .directory []

/-- The entry is a directory. -/
def isDirectory : Entry → Bool
  | .directory _ => true
  | .file _ => false

/-- The entries of a directory; a file has none. -/
def children : Entry → List (String × Entry)
  | .directory entries => entries
  | .file _ => []

/-- What stands at a list of names. -/
def get? (e : Entry) : List String → Option Entry
  | [] => some e
  | name :: rest =>
    match e.children.lookup name with
    | some child => child.get? rest
    | none => none

/-- The tree with an entry put at a list of names. Directories that are missing on the way are
put in, and a file on the way stays. -/
def put : Entry → List String → Entry → Entry
  | _, [], new => new
  | .file bytes, _ :: _, _ => .file bytes
  | .directory entries, name :: rest, new =>
    .directory (Table.put name (put ((entries.lookup name).getD empty) rest new) entries)

/-- The tree without what stands at a list of names. -/
def remove : Entry → List String → Entry
  | e, [] => e
  | .file bytes, _ :: _ => .file bytes
  | .directory entries, [name] => .directory (entries.filter (·.1 != name))
  | .directory entries, name :: next :: rest =>
    match entries.lookup name with
    | some child => .directory (Table.put name (remove child (next :: rest)) entries)
    | none => .directory entries

mutual

/-- Everything below an entry: the names that lead there, with the bytes of a file, or nothing for
a directory. -/
def listing (before : List String) : Entry → List (List String × Option ByteArray)
  | .file _ => []
  | .directory entries => listEntries before entries

/-- The entries of a directory with everything below them. -/
def listEntries (before : List String) :
    List (String × Entry) → List (List String × Option ByteArray)
  | [] => []
  | (name, .file bytes) :: rest => (before ++ [name], some bytes) :: listEntries before rest
  | (name, .directory entries) :: rest =>
    (before ++ [name], none) :: listing (before ++ [name]) (.directory entries) ++
      listEntries before rest

end

@[simp] theorem get?_nil (e : Entry) : e.get? [] = some e := rfl

@[simp] theorem children_directory (entries : List (String × Entry)) :
    (Entry.directory entries).children = entries := rfl

end Entry

end DeploySync.Files
