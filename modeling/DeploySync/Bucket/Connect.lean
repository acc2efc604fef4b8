import DeploySync.Bucket.Directory
import DeploySync.Bucket.Objects

/-!
# The store that the settings name

## Main definitions

* `Store` — a bucket kept as a directory, or one of an object store
* `Store.connect` — the store that the settings name
* `Store.perform` — answers calls on it with files and a network that are values
-/

namespace DeploySync

/-- The store that holds the bucket. -/
inductive Store where
  | directory (bucket : DirectoryBucket)
  | objects (bucket : ObjectBucket)
  deriving DecidableEq, Repr

namespace Store

/-- The store that the settings name. -/
def connect (c : Settings) : Except Error Store :=
  match c.backend with
  | .objects => (ObjectBucket.ofSettings c).map objects
  | .directory =>
    match c.directoryRoot with
    | some base => .ok (.directory ⟨base, c.bucket⟩)
    | none => .error (.validation .localRootNotSet)

/-- The name of the bucket. -/
def bucketName : Store → String
  | .directory b => b.name
  | .objects b => b.name

/-- Files, and the answers that a network gives to the requests to come. -/
structure Surroundings where
  files : Files
  network : List (Except Http.Failure Http.Response) := []

/-- Answers calls on the bucket in surroundings that are values. -/
def perform (s : Store) : Plan.Handler Bucket.Call Bucket.Call.Answer Surroundings := fun c w =>
  match s with
  | .directory b =>
    let (a, files) := b.perform c w.files
    (a, { w with files := files })
  | .objects b =>
    let (a, network) := b.perform (w.network.length + 1) Http.scripted c w.network
    (a, { w with network := network })

end Store

end DeploySync
