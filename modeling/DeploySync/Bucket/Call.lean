import DeploySync.BlobKey
import DeploySync.Bytes
import DeploySync.Plan
import DeploySync.StorageClass

/-!
# Calls on a bucket

## Main definitions

* `Bucket.Call`, `Bucket.Call.Answer` — what can be asked of the store that holds the bucket
* `Bucket.Call.name` — the name of a call
* `Bucket.Plan` — plans over these calls
-/

namespace DeploySync.Bucket

/-- What can be asked of the store that holds the bucket. -/
inductive Call where
  | bucketExists
  | createBucket (location : String) (storageClass : StorageClass)
  | blobExists (key : BlobKey)
  | download (key : BlobKey)
  | upload (key : BlobKey) (bytes : ByteArray)
  | setClass (key : BlobKey) (storageClass : StorageClass)
  deriving DecidableEq

/-- The type of the answer to a call. -/
def Call.Answer : Call → Type
  | .bucketExists => Bool
  | .createBucket .. => Unit
  | .blobExists _ => Bool
  | .download _ => ByteArray
  | .upload .. => Unit
  | .setClass .. => Unit

/-- The name of a call. -/
def Call.name : Call → String
  | .bucketExists => "bucket_exists"
  | .createBucket .. => "create_bucket"
  | .blobExists _ => "blob_exists"
  | .download _ => "download"
  | .upload .. => "upload"
  | .setClass .. => "set_storage_class"

/-- The call may change what the store holds. -/
def Call.isWrite : Call → Bool
  | .createBucket .. => true
  | .upload .. => true
  | .setClass .. => true
  | _ => false

/-- A plan over calls on a bucket. -/
abbrev Plan := DeploySync.Plan Call Call.Answer

end DeploySync.Bucket
