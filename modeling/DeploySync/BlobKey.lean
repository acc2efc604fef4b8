import DeploySync.Error

/-!
# Blob keys

A blob lives in its bucket under a key, which is a text of segments joined by slashes. A segment
that is blank is refused, so that a blank workspace never falls together with the bucket's root.

## Main definitions

* `BlobKey` — a key
* `BlobKey.ofSegments` — the key of a list of segments
* `BlobKey.workspaceFile`, `BlobKey.componentFile` — the two layouts of the bucket
* `BlobKey.components` — the parts between the slashes
-/

namespace DeploySync

/-- A key, as the characters it is written with. -/
structure BlobKey where
  chars : List Char
  deriving DecidableEq, Repr

namespace BlobKey

/-- The slash that joins the segments of a key. -/
def slash : Char := '/'

/-- How a key is written. -/
def text (k : BlobKey) : String := String.ofList k.chars

/-- The parts between the slashes. -/
def components (k : BlobKey) : List (List Char) := Text.split slash k.chars

/-- A segment without the slashes around it. -/
def stripSlashes (segment : List Char) : List Char := Text.trimBy (· == slash) segment

/-- The segment as part of a key, unless it is blank once the slashes around it are gone. -/
def segment? (segment : List Char) : Option (List Char) :=
  let stripped := stripSlashes segment
  if Text.allBlank stripped then none else some stripped

/-- The key of a list of segments, given as characters. -/
def ofCharSegments (segments : List (List Char)) : Except Error BlobKey :=
  match segments.mapM segment? with
  | none => .error (.validation .blankKeySegment)
  | some [] => .error (.validation .emptyKey)
  | some parts => .ok ⟨Text.join [slash] parts⟩

/-- The key of a list of segments: the slashes around each are dropped, and the rest joined. -/
def ofSegments (segments : List String) : Except Error BlobKey :=
  ofCharSegments (segments.map String.toList)

/-- The key of a file of a workspace. -/
def workspaceFile (workspace file : String) : Except Error BlobKey :=
  ofSegments [workspace, file]

/-- The key of a file of a component of a workspace. -/
def componentFile (workspace component file : String) : Except Error BlobKey :=
  ofSegments [workspace, component, file]

/-- The key has a component that would lead elsewhere in a directory tree. -/
def isRelative (k : BlobKey) : Bool :=
  k.components.any fun c => c == ['.'] || c == ['.', '.']

end BlobKey

end DeploySync
