import DeploySync.Proofs.World
import DeploySync.Sync.Blob

/-!
# Steps on a bucket in memory

The steps that all synchronizations are made of, each put as the calls it makes, with what it does
on a world whose bucket is one in memory.

## Main definitions

* `Sync.Carries` — a world in which the same can be read as in another one
* `Sync.IsEnsuring` — the calls that make sure of the bucket

## Main results

* `Sync.run_ensureBucket`, `Sync.run_uploadBlob` — the bucket is there, and takes a text
* `Sync.run_downloadIfExists` — a download over a file that can be written
* `Sync.run_fetchRequired` — a blob that is there is fetched
-/

namespace DeploySync.Sync

open DeploySync.Plan (done)

variable {w w' : World} {b b' : MemoryBucket} {key : BlobKey} {destination : Path}
variable {bytes : ByteArray}

/-- A world has a bucket in memory, and the same can be read in it as in another one. -/
structure Carries (w w' : World) (b : MemoryBucket) : Prop where
  holds : w'.Holds b
  files : w'.files = w.files
  outputs : w'.outputs = w.outputs

theorem Carries.refl (hw : w.Holds b) : Carries w w b := ⟨hw, rfl, rfl⟩

theorem Carries.behind (hw : Carries w w' b) (c : Bucket.Call) (b' : MemoryBucket) :
    Carries w (w'.behind c b') b' := ⟨hw.holds.behind c b', hw.files, hw.outputs⟩

/-- A call that the bucket answers is answered. -/
theorem perform_bucket_ok {c : Bucket.Call} {a : c.Answer} (hperform : b.perform c = (.ok a, b'))
    (hw : Carries w w' b) :
    ∃ w'', World.perform (.bucket c) w' = (.ok a, w'') ∧ Carries w w'' b' := by
  refine ⟨w'.behind c b', ?_, hw.behind c b'⟩
  rw [World.perform_bucket hw.holds, hperform]
  rfl

/-! ### Making sure of the bucket -/

/-- What follows the answer whether the bucket is there; tells whether it was created. -/
def createUnless (t : Target) (isThere : Bool) : Plan Bool :=
  if isThere then done (.ok false)
  else .ask (.bucket (.createBucket t.region t.storageClass)) fun _ => done (.ok true)

/-- Making sure of the bucket call by call. -/
theorem ensureBucket_eq (t : Target) :
    ensureBucket t = (onBucket .bucketExists).bind (createUnless t) := by
  rw [ensureBucket, Plan.bind_eq]
  refine congrArg _ (funext fun isThere : Bool => ?_)
  cases isThere <;> rfl

/-- The bucket is there behind making sure of it. -/
theorem run_ensureBucket (t : Target) (hw : Carries w w' b) :
    ∃ isNew w'', (ensureBucket t).run World.perform w' = (.ok isNew, w'') ∧
      Carries w w'' { b with isThere := true } := by
  obtain ⟨w₁, hexists, hw₁⟩ := perform_bucket_ok (c := .bucketExists) (a := b.isThere) rfl hw
  rw [ensureBucket_eq]
  cases hthere : b.isThere with
  | true =>
    rw [hthere] at hexists
    have hb : { b with isThere := true } = b := by rw [← hthere]
    exact ⟨false, w₁, Plan.run_ask_ok hexists, by rwa [hb]⟩
  | false =>
    rw [hthere] at hexists
    obtain ⟨w₂, hcreate, hw₂⟩ := perform_bucket_ok
      (MemoryBucket.perform_createBucket hthere t.region t.storageClass) hw₁
    exact ⟨true, w₂, (Plan.run_ask_ok hexists).trans (Plan.run_ask_ok hcreate), hw₂⟩

/-- A call that makes sure of the bucket. -/
def IsEnsuring (t : Target) : Call → Prop
  | .bucket .bucketExists => True
  | .bucket (.createBucket location c) => location = t.region ∧ c = t.storageClass
  | _ => False

theorem asks_ensureBucket (t : Target) : Plan.Asks (IsEnsuring t) (ensureBucket t) := by
  rw [ensureBucket_eq]
  refine Plan.Asks.bind ⟨trivial, fun _ => Plan.asks_done _⟩ fun isThere => ?_
  cases isThere with
  | true => exact Plan.asks_done _
  | false => exact ⟨⟨rfl, rfl⟩, fun _ => Plan.asks_done _⟩

/-! ### Uploads -/

/-- Uploading a text call by call. -/
theorem uploadBlob_eq (key : BlobKey) (text : String) (c : StorageClass) :
    uploadBlob key text c = .ask (.bucket (.upload key (Bytes.ofText text))) fun _ =>
      .ask (.bucket (.setClass key c)) fun _ => done (.ok ()) := rfl

/-- A bucket that is there takes texts and their storage class. -/
theorem run_uploadBlob (key : BlobKey) (text : String) (c : StorageClass) (hw : Carries w w' b)
    (hthere : b.isThere) :
    ∃ w'', (uploadBlob key text c).run World.perform w' = (.ok (), w'') ∧
      Carries w w'' (MemoryBucket.storing c [(key, text)] b) := by
  obtain ⟨w₁, hupload, hw₁⟩ :=
    perform_bucket_ok (MemoryBucket.perform_upload hthere key (Bytes.ofText text)) hw
  -- the class can be set since the blob is there now
  have hblob :
      ({ b with blobs := Table.put key (Bytes.ofText text) b.blobs }.blob? key).isSome := by
    rw [MemoryBucket.blob?_put, if_pos rfl, Option.isSome_some]
  obtain ⟨w₂, hclass, hw₂⟩ := perform_bucket_ok (MemoryBucket.perform_setClass hblob c) hw₁
  exact ⟨w₂, (Plan.run_ask_ok hupload).trans (Plan.run_ask_ok hclass), hw₂⟩

/-! ### Downloads -/

/-- A blob that is there is found and read. -/
theorem perform_blob (hw : Carries w w' b) (hblob : b.blob? key = some bytes) :
    ∃ w₁ w₂, World.perform (.bucket (.blobExists key)) w' = (.ok true, w₁) ∧
      World.perform (.bucket (.download key)) w₁ = (.ok bytes, w₂) ∧ Carries w w₂ b := by
  have hexists : b.perform (.blobExists key) = (.ok true, b) := by
    rw [MemoryBucket.perform, hblob]
    rfl
  have hdownload : b.perform (.download key) = (.ok bytes, b) := by
    rw [MemoryBucket.perform, hblob]
  obtain ⟨w₁, hexists', hw₁⟩ := perform_bucket_ok hexists hw
  obtain ⟨w₂, hdownload', hw₂⟩ := perform_bucket_ok hdownload hw₁
  exact ⟨w₁, w₂, hexists', hdownload', hw₂⟩

/-- What follows the answer whether the blob is there; tells whether it was downloaded. -/
def downloadIf (key : BlobKey) (destination : Path) (isThere : Bool) : Plan Bool :=
  if isThere then
    (onBucket (.download key)).bind fun bytes =>
      (writeFile destination bytes).bind fun _ => done (.ok true)
  else done (.ok false)

theorem downloadIfExists_eq (key : BlobKey) (destination : Path) :
    downloadIfExists key destination =
      (onBucket (.blobExists key)).bind (downloadIf key destination) := by
  rw [downloadIfExists]
  refine congrArg (Plan.bind (onBucket (.blobExists key))) (funext fun isThere : Bool => ?_)
  cases isThere <;> rfl

/-- A download uploads nothing. -/
theorem asks_downloadIfExists :
    Plan.Asks (fun q => ∀ key' bytes, q ≠ .bucket (.upload key' bytes))
      (downloadIfExists key destination) := by
  rw [downloadIfExists_eq]
  refine ⟨fun _ _ => nofun, fun isThere => ?_⟩
  cases isThere with
  | true => exact ⟨fun _ _ => nofun, fun _ => ⟨fun _ _ => nofun, fun _ => trivial⟩⟩
  | false => exact trivial

/-- A blob that is there is read from the bucket, and then it is written. -/
theorem run_download_write (hw : w.Holds b) (hblob : b.blob? key = some bytes)
    (destination : Path) :
    ∃ w', w.run (downloadIfExists key destination) =
        w'.run ((writeFile destination bytes).bind fun _ => done (.ok true)) ∧
      Carries w w' b := by
  obtain ⟨w₁, w₂, hexists, hdownload, hw₂⟩ := perform_blob (.refl hw) hblob
  refine ⟨w₂, ?_, hw₂⟩
  rw [downloadIfExists_eq]
  exact (Plan.run_ask_ok hexists).trans (Plan.run_ask_ok hdownload)

/-- A blob that is there is downloaded over a file that can be written, and nothing else changes. -/
theorem run_downloadIfExists (hw : w.Holds b) (hblob : b.blob? key = some bytes)
    (hdestination : w.files.Writable destination) :
    ∃ w' place name, w.run (downloadIfExists key destination) = (.ok true, w') ∧ w'.Holds b ∧
      w.files.Lands destination place name ∧
      w'.files = w.files.withFile (place ++ [name]) bytes := by
  obtain ⟨w₁, hrun, hw₁⟩ := run_download_write hw hblob destination
  rw [← hw₁.files] at hdestination
  obtain ⟨place, name, hplace, hwrite⟩ := World.perform_writeFile_ok hdestination bytes
  refine ⟨_, place, name, hrun.trans (Plan.run_ask_ok hwrite),
    ⟨hw₁.holds.holder, hw₁.holds.interruptions⟩, by rwa [← hw₁.files], ?_⟩
  rw [← hw₁.files]
  rfl

/-- A blob that is there is not downloaded over a file that cannot be written. -/
theorem run_downloadIfExists_of_not_writable (hw : w.Holds b) (hblob : b.blob? key = some bytes)
    (hdestination : ¬ w.files.Writable destination) :
    ∃ w' fault,
      w.run (downloadIfExists key destination) = (.error (.localFile destination fault), w') ∧
        w'.Holds b ∧ w'.files = w.files := by
  obtain ⟨w₁, hrun, hw₁⟩ := run_download_write hw hblob destination
  rw [← hw₁.files] at hdestination
  obtain ⟨fault, hwrite⟩ := World.perform_writeFile_error hdestination bytes
  exact ⟨w₁, fault, hrun.trans (Plan.run_ask_error hwrite), hw₁.holds, hw₁.files⟩

/-! ### Fetches -/

/-- What follows the answer whether the blob is there, for a blob that has to be there. -/
def fetchIf (bucket : String) (key : BlobKey) (label : String) (isThere : Bool) :
    Plan ByteArray :=
  if isThere then onBucket (.download key)
  else Plan.fail (.notFound (.document label bucket key.text))

theorem fetchRequired_eq (bucket : String) (key : BlobKey) (label : String) :
    fetchRequired bucket key label =
      (onBucket (.blobExists key)).bind (fetchIf bucket key label) := by
  rw [fetchRequired]
  refine congrArg (Plan.bind (onBucket (.blobExists key))) (funext fun isThere : Bool => ?_)
  cases isThere <;> rfl

/-- A blob that is there is fetched. -/
theorem run_fetchRequired (hw : Carries w w' b) (hblob : b.blob? key = some bytes)
    (bucket label : String) :
    ∃ w'', w'.run (fetchRequired bucket key label) = (.ok bytes, w'') ∧ Carries w w'' b := by
  obtain ⟨w₁, w₂, hexists, hdownload, hw₂⟩ := perform_blob hw hblob
  refine ⟨w₂, ?_, hw₂⟩
  rw [fetchRequired_eq]
  exact (Plan.run_ask_ok hexists).trans (Plan.run_ask_ok hdownload)

end DeploySync.Sync
