import DeploySync.Bucket.Call
import DeploySync.Files.Call
import DeploySync.Yaml.Layout
import DeploySync.Yaml.Read

/-!
# Buckets kept as directories

A bucket is a directory below a base directory, and its blobs are the files in it. A marker in the
directory records how the bucket was created.

## Main definitions

* `DirectoryBucket` — a base directory and the name of a bucket
* `DirectoryBucket.blobPath` — the file of a blob
* `DirectoryBucket.Marker` — how a bucket was created
* `DirectoryBucket.plan` — a call on the bucket as a plan over calls on files
* `DirectoryBucket.marker` — the plan that reads the marker
-/

namespace DeploySync

/-- A bucket kept as a directory. -/
structure DirectoryBucket where
  base : Path
  name : String
  deriving DecidableEq, Repr

namespace DirectoryBucket

/-- How a bucket was created. -/
structure Marker where
  location : String
  storageClass : StorageClass
  deriving DecidableEq, Repr

namespace Marker

/-- The name of the file. -/
def fileName : String := ".bucket.yaml"

/-- The field of the location. -/
def locationField : String := "location"

/-- The field of the storage class. -/
def classField : String := "storage_class"

/-- A marker as a value. -/
def toValue (m : Marker) : Yaml.Value :=
  .mapping
    [(.string locationField, .string m.location),
      (.string classField, .string m.storageClass.name)]

/-- Writes a marker. -/
def toYaml (m : Marker) : Except Error String :=
  match Yaml.render m.toValue with
  | .ok text => .ok text
  | .error e => .error (.yaml e)

/-- The fields read so far. -/
structure Partial where
  location : Option String := none
  storageClass : Option StorageClass := none

/-- Reads one field; unknown ones are passed over. -/
def readField (t : Yaml.Tree) (p : Partial) (name : String) (path : Yaml.Path)
    (node : Yaml.Node) : Yaml.Read Partial := do
  if name = locationField then
    if p.location.isSome then Yaml.Read.misfit (.repeatedField name)
    else return { p with location := some (← Yaml.readText t "a string" path node) }
  else if name = classField then
    if p.storageClass.isSome then Yaml.Read.misfit (.repeatedField name)
    else
      let name ← Yaml.readVariant t StorageClass.names path node
      return { p with storageClass := StorageClass.ofName? name }
  else
    Yaml.passOver t node
    return p

/-- Both fields have to be there. -/
def Partial.finish (p : Partial) : Except Yaml.Misfit Marker :=
  match p.location, p.storageClass with
  | some location, some storageClass => .ok ⟨location, storageClass⟩
  | none, _ => .error (.missingField locationField)
  | _, none => .error (.missingField classField)

/-- Reads a marker from a node. -/
def read (t : Yaml.Tree) : Yaml.Path → Yaml.Node → Yaml.Read Marker :=
  Yaml.readRecord t "struct BucketMarker" (readField t) {} Partial.finish

/-- Reads a marker. -/
def parse (text : String) : Except Error Marker :=
  match Yaml.parse read text with
  | .ok m => .ok m
  | .error e => .error (.yaml e)

end Marker

/-- The directory of the bucket. -/
def root (b : DirectoryBucket) : Path := b.base.join b.name

/-- The file of the marker. -/
def markerPath (b : DirectoryBucket) : Path := b.root.join Marker.fileName

/-- The file of a blob. A key with relative components has none, so that no key leads out of the
bucket. -/
def blobPath (b : DirectoryBucket) (key : BlobKey) : Except Error Path :=
  if key.isRelative then .error (.validation (.relativeKey key.text))
  else .ok (b.root.join key.text)

/-- The error of a blob that is not there. -/
def missing (b : DirectoryBucket) (key : BlobKey) : Error := .notFound (.blob key.text b.name)

/-- Plans over calls on files. -/
abbrev FilePlan := Plan Files.Call Files.Call.Answer

/-- Reads a blob. -/
def download (b : DirectoryBucket) (key : BlobKey) : FilePlan ByteArray := do
  let path ← Plan.ofExcept (b.blobPath key)
  let isFile : Bool ← Plan.call (Files.Call.isFile path)
  if isFile then Plan.call (Files.Call.read path) else Plan.fail (b.missing key)

/-- Writes a blob, with the directories above it that are missing. -/
def upload (b : DirectoryBucket) (key : BlobKey) (bytes : ByteArray) : FilePlan Unit := do
  let isDirectory : Bool ← Plan.call (Files.Call.isDirectory b.root)
  if isDirectory then
    let path ← Plan.ofExcept (b.blobPath key)
    match path.parent? with
    | some parent =>
      let _ ← Plan.call (Files.Call.createDirectories parent)
      Plan.call (Files.Call.write path bytes)
    | none => Plan.call (Files.Call.write path bytes)
  else Plan.fail (.storage (.noBucket b.name))

/-- Creates the directory of the bucket and writes its marker. -/
def create (b : DirectoryBucket) (m : Marker) : FilePlan Unit := do
  let _ ← Plan.call (Files.Call.createDirectories b.root)
  let text ← Plan.ofExcept m.toYaml
  Plan.call (Files.Call.write b.markerPath (Bytes.ofText text))

/-- Accepts the storage class of a blob that is there. Files have no class of their own. -/
def setClass (b : DirectoryBucket) (key : BlobKey) : FilePlan Unit := do
  let path ← Plan.ofExcept (b.blobPath key)
  let isFile : Bool ← Plan.call (Files.Call.isFile path)
  if isFile then return () else Plan.fail (b.missing key)

/-- A call on the bucket as a plan over calls on files. -/
def plan (b : DirectoryBucket) : (c : Bucket.Call) → FilePlan c.Answer
  | .bucketExists => Plan.call (Files.Call.isDirectory b.root)
  | .createBucket location storageClass => b.create ⟨location, storageClass⟩
  | .blobExists key => do
    let path ← Plan.ofExcept (b.blobPath key)
    Plan.call (Files.Call.isFile path)
  | .download key => b.download key
  | .upload key bytes => b.upload key bytes
  | .setClass key _ => b.setClass key

/-- Reads the marker, if there is one. -/
def marker (b : DirectoryBucket) : FilePlan (Option Marker) := do
  let isThere : Bool ← Plan.call (Files.Call.holds b.markerPath)
  if isThere then
    let text ← Files.readText b.markerPath
    let m ← Plan.ofExcept (Marker.parse text)
    return some m
  else return none

/-- Answers calls on the bucket on files in memory. -/
def perform (b : DirectoryBucket) : Plan.Handler Bucket.Call Bucket.Call.Answer Files :=
  fun c f => (b.plan c).run Files.perform f

end DirectoryBucket

end DeploySync
