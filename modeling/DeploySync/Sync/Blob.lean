import DeploySync.Settings.Basic
import DeploySync.Sync.Call

/-!
# Steps on the bucket

## Main definitions

* `Sync.Target` — the bucket, and how it is created
* `Sync.ensureBucket` — creates the bucket if it is missing
* `Sync.uploadBlob` — uploads a text and sets its storage class
* `Sync.downloadIfExists` — downloads a blob over a file if it is there
* `Sync.fetchRequired` — downloads a blob that has to be there
-/

namespace DeploySync.Sync

/-- The bucket, and the location and the storage class with which it is created. -/
structure Target where
  bucket : String
  region : String
  storageClass : StorageClass
  deriving DecidableEq, Repr

/-- The target that the settings name. -/
def Target.ofSettings (c : Settings) : Target := ⟨c.bucket, c.region, c.storageClass⟩

/-- Creates the bucket if it is missing; tells whether it did. -/
def ensureBucket (t : Target) : Plan Bool := do
  let isThere : Bool ← onBucket .bucketExists
  if isThere then return false
  else
    let _ ← onBucket (.createBucket t.region t.storageClass)
    return true

/-- Uploads a text, and sets the storage class of the blob. -/
def uploadBlob (key : BlobKey) (text : String) (storageClass : StorageClass) : Plan Unit := do
  let _ ← onBucket (.upload key (Bytes.ofText text))
  onBucket (.setClass key storageClass)

/-- Downloads a blob over a file, if it is there; tells whether it was. -/
def downloadIfExists (key : BlobKey) (destination : Path) : Plan Bool := do
  let isThere : Bool ← onBucket (.blobExists key)
  if isThere then
    let bytes : ByteArray ← onBucket (.download key)
    writeFile destination bytes
    return true
  else return false

/-- Downloads a blob that has to be there; the label names it in the error. -/
def fetchRequired (bucket : String) (key : BlobKey) (label : String) : Plan ByteArray := do
  let isThere : Bool ← onBucket (.blobExists key)
  if isThere then onBucket (.download key)
  else DeploySync.Plan.fail (.notFound (.document label bucket key.text))

end DeploySync.Sync
