import DeploySync.Settings.Location
import DeploySync.Sync.Blob

/-!
# Synchronizing the common settings

The common settings of an environment have one copy in the bucket, under the name of the directory
of the environment.

## Main definitions

* `CommonVarsSync` — the key of the copy, the file that is uploaded and the one that is downloaded
* `CommonVarsSync.upload`, `CommonVarsSync.download` — the two directions
-/

namespace DeploySync

/-- The copy of the common settings, and their files. A download always goes to the directory of
the environment. -/
structure CommonVarsSync where
  target : Sync.Target
  key : BlobKey
  source : Path
  destination : Path
  deriving DecidableEq, Repr

namespace CommonVarsSync

/-- The synchronization that the settings name. -/
def ofSettings (c : Settings) (executable : Path) : Except Error CommonVarsSync := do
  let dir ← c.environmentDir executable
  let name ← c.environmentName executable
  let key ← BlobKey.workspaceFile name Document.commonVarsFile
  let source ← c.commonVarsPath executable
  return ⟨.ofSettings c, key, source, dir.join Document.commonVarsFile⟩

/-- Replaces the copy by what the file says. -/
def upload (s : CommonVarsSync) : Sync.Plan Unit := do
  let text ← Sync.readText s.source
  let document ← Plan.ofExcept (Document.parse text)
  let _ ← Sync.ensureBucket s.target
  let yaml ← Plan.ofExcept document.toYaml
  Sync.uploadBlob s.key yaml s.target.storageClass

/-- Replaces the file by the copy, if there is one; tells whether there was. -/
def download (s : CommonVarsSync) : Sync.Plan Bool :=
  Sync.downloadIfExists s.key s.destination

end CommonVarsSync

end DeploySync
