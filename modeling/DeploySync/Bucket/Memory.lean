import DeploySync.Bucket.Call
import DeploySync.Table

/-!
# A bucket in memory

## Main definitions

* `MemoryBucket` — the blobs of a bucket, and the storage classes set for them
* `MemoryBucket.perform` — answers calls
-/

namespace DeploySync

/-- A bucket in memory. A blob has a storage class only if one was set. -/
structure MemoryBucket where
  name : String
  isThere : Bool := false
  blobs : List (BlobKey × ByteArray) := []
  classes : List (BlobKey × StorageClass) := []

namespace MemoryBucket

/-- The bytes of a blob. -/
def blob? (b : MemoryBucket) (key : BlobKey) : Option ByteArray := b.blobs.lookup key

/-- The storage class that was set for a blob. -/
def class? (b : MemoryBucket) (key : BlobKey) : Option StorageClass := b.classes.lookup key

/-- Puts a blob without a call; the bucket is there then. -/
def put (b : MemoryBucket) (key : BlobKey) (bytes : ByteArray) : MemoryBucket :=
  { b with isThere := true, blobs := Table.put key bytes b.blobs }

/-- Answers a call. A bucket is created once only, takes blobs only when it is there, and sets the
class only of blobs that it has. -/
def perform : Plan.Handler Bucket.Call Bucket.Call.Answer MemoryBucket
  | .bucketExists, b => (.ok b.isThere, b)
  | .createBucket .., b =>
    if b.isThere then (.error (.storage (.bucketExists b.name)), b)
    else (.ok (), { b with isThere := true })
  | .blobExists key, b => (.ok (b.blob? key).isSome, b)
  | .download key, b =>
    match b.blob? key with
    | some bytes => (.ok bytes, b)
    | none => (.error (.notFound (.other key.text)), b)
  | .upload key bytes, b =>
    if b.isThere then (.ok (), { b with blobs := Table.put key bytes b.blobs })
    else (.error (.storage (.noBucket b.name)), b)
  | .setClass key storageClass, b =>
    if (b.blob? key).isSome then
      (.ok (), { b with classes := Table.put key storageClass b.classes })
    else (.error (.notFound (.other key.text)), b)

end MemoryBucket

end DeploySync
