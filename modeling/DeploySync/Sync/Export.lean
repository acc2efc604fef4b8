import DeploySync.Document
import DeploySync.Properties
import DeploySync.Sync.Blob

/-!
# Exporting the settings of components

## Main definitions

* `ExportSync` — the bucket, and the file of properties that is written
* `ExportSync.run` — writes the properties of the components of a workspace
-/

namespace DeploySync

/-- The bucket, and the file of properties that is written. -/
structure ExportSync where
  bucket : String
  destination : Path
  deriving DecidableEq, Repr

namespace ExportSync

/-- The component of the database. -/
def databaseComponent : String := "asdb"

/-- The component of the backup service. -/
def backupComponent : String := "abs"

/-- Reads the common settings of a component. -/
def componentVars (s : ExportSync) (workspace component : String) : Sync.Plan Document := do
  let key ← Plan.ofExcept (BlobKey.componentFile workspace component Document.commonVarsFile)
  let bytes ← Sync.fetchRequired s.bucket key (component ++ " " ++ Document.commonVarsFile)
  Plan.ofExcept (Document.ofBytes bytes)

/-- The properties of the two components. -/
def properties (database backup : Document) : Except Error Properties := do
  let provider ← backup.property "k8s.abs.storage-provider"
  let image ← backup.property "k8s.abs.image-tag"
  let version ← database.property "asdb.version"
  return .ofList
    [("ABS_STORAGE_PROVIDER", provider), ("ABS_IMAGE_TAG", image), ("ASDB_VERSION", version)]

/-- Writes the properties of the components of a workspace. Both documents have to be there. -/
def run (s : ExportSync) (workspace : String) : Sync.Plan Properties := do
  let database ← s.componentVars workspace databaseComponent
  let backup ← s.componentVars workspace backupComponent
  let p ← Plan.ofExcept (properties database backup)
  Sync.writeFile s.destination (Bytes.ofText p.render)
  return p

end ExportSync

end DeploySync
