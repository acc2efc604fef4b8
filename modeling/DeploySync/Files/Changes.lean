import DeploySync.Bytes
import DeploySync.Files.Basic

/-!
# What changed in a tree

## Main definitions

* `Files.Change` — what stands at names where something else stood
* `Files.changes` — the changes below a directory from one tree to another
-/

namespace DeploySync.Files

/-- What stands at names where something else stood. -/
inductive Change where
  | directory
  | file (bytes : ByteArray)
  /-- Nothing stands there any more; the flag tells whether a directory did. -/
  | gone (wasDirectory : Bool)

/-- Everything below a place. -/
def listingAt (root : Entry) (place : List String) : List (List String × Option ByteArray) :=
  match root.get? place with
  | some e => e.listing []
  | none => []

/-- The changes below a place from one tree to another, each with its names. -/
def changes (place : List String) (before after : Entry) : List (List String × Change) :=
  let old := listingAt before place
  let new := listingAt after place
  let put := new.filterMap fun (names, content) =>
    match old.lookup names, content with
    | some (some bytes), some more => if bytes = more then none else some (names, .file more)
    | some none, none => none
    | _, some bytes => some (names, .file bytes)
    | _, none => some (names, .directory)
  let gone := old.filterMap fun (names, content) =>
    match new.lookup names with
    | none => some (names, .gone content.isNone)
    | some other =>
      if other.isNone = content.isNone then none else some (names, .gone content.isNone)
  put ++ gone

end DeploySync.Files
