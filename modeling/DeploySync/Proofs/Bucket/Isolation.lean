import DeploySync.Proofs.Bucket.Directory
import DeploySync.Proofs.Bucket.Serving
import DeploySync.Proofs.Yaml.Equality

/-!
# Which blobs an upload touches

An upload to a bucket kept as a directory changes the blobs under the keys that spell the same
names, and no others. Among these are keys that differ in empty components, and the marker is under
the key of its name.

## Main results

* `DirectoryBucket.blob?_of_grown` — blobs stay where directories are added
* `DirectoryBucket.unused_after` — what is there before the first upload
* `DirectoryBucket.uploads_isolated` — what an upload changes, and what is there before the first
  one
* `DirectoryBucket.not_isolated` — two keys of one file, and the marker as a blob
-/

namespace DeploySync.DirectoryBucket

variable {b : DirectoryBucket} {f g : Files} {k k' : BlobKey} {bytes : ByteArray}
variable {requests : List Request} {history : List Shown}

/-- Blobs stay where directories are added. -/
theorem blob?_of_grown {Q : List String → Prop} (hg : Files.Grown f g Q) (hk : k.IsTrimmed)
    (h : b.blob? f k = some bytes) : b.blob? g k = some bytes := by
  obtain ⟨hrelative, hreach, hwalk, hlook⟩ := (blob?_eq_some_iff hk).1 h
  have hplace : b.place g = b.place f := place_eq_of_here hg.here
  refine (blob?_eq_some_iff hk).2 ⟨hrelative, hreach, ?_, ?_⟩
  · rw [hplace, Files.start, hg.here]
    exact hg.walk hwalk
  · rwa [hplace, hg.file_iff]

/-- Below the directory of the bucket is no file but the marker, which is there if the bucket was
created with success. -/
structure Unused (b : DirectoryBucket) (f : Files) (history : List Shown) : Prop where
  marker : ∀ names, names ≠ [] → ∀ bytes, f.root.look (b.place f ++ names) = some (some bytes) →
    names = markerKey.names ∧ creations history ≠ []
  created : creations history ≠ [] → (b.blob? f markerKey).isSome

/-- Where nothing is in the place of the bucket's directory the bucket is unused. -/
theorem unused_of_look (h : f.root.look (b.place f) = none) : b.Unused f [] where
  marker names hnames bytes hfile := by
    obtain ⟨name, rest, rfl⟩ := List.exists_cons_of_ne_nil hnames
    rw [Files.Entry.look_of_append (by rw [hfile]; simp)] at h
    cases h
  created h := absurd rfl h

/-- Added directories do not use a bucket. -/
theorem Unused.grown {Q : List String → Prop} (h : b.Unused f history) (hg : Files.Grown f g Q) :
    b.Unused g history where
  marker names hnames bytes hfile := by
    rw [place_eq_of_here hg.here, hg.file_iff] at hfile
    exact h.marker names hnames bytes hfile
  created hcreated := by
    obtain ⟨bytes, hbytes⟩ := Option.isSome_iff_exists.1 (h.created hcreated)
    rw [blob?_of_grown hg isTrimmed_markerKey hbytes]
    rfl

/-- What was answered matters as far as the bucket was created. -/
theorem Unused.congr {history' : List Shown} (h : b.Unused f history)
    (hcreations : creations history' = creations history) : b.Unused f history' :=
  ⟨by rw [hcreations]; exact h.marker, by rw [hcreations]; exact h.created⟩

/-- A bucket that is created is unused still. -/
theorem Unused.create {location : String} {c : StorageClass} (h : b.Unused f history)
    (hsuccess : b.perform (.createBucket location c) f = (.ok (), g)) {history' : List Shown}
    (hcreated : creations history' ≠ []) : b.Unused g history' := by
  obtain ⟨text, -, hreach, hwalk, hstored⟩ := stored_of_perform_create hsuccess
  refine ⟨fun names hnames bytes hfile => ⟨?_, hcreated⟩, fun _ => ?_⟩
  · -- another file would have been there before
    by_contra hmarker
    rw [file_iff_of_stored hstored hmarker] at hfile
    exact hmarker (h.marker names hnames bytes hfile).1
  · rw [(blob?_eq_some_iff isTrimmed_markerKey).2
      ⟨isRelative_markerKey, hreach, hwalk, look_of_stored hstored⟩]
    rfl

/-- A step that uploads nothing leaves a bucket unused. -/
theorem Unused.step {x : Shown} (h : b.Unused f history) (hstep : b.Step f x g)
    (hupload : uploaded? x = none) : b.Unused g (history ++ [x]) := by
  cases hstep with
  | asked _ hcreated => exact h.congr (creations_concat_of_none hcreated)
  | uploaded _ _ => cases hupload
  | notUploaded hgrown _ => exact (h.grown hgrown).congr (creations_concat_of_none rfl)
  | created hsuccess =>
    refine h.create hsuccess ?_
    rw [creations_concat]
    exact List.append_ne_nil_of_right_ne_nil _ (List.cons_ne_nil _ _)
  | notCreated hgrown => exact (h.grown hgrown).congr (creations_concat_of_none rfl)

/-- A bucket whose directory was not there is unused until the first upload. -/
theorem unused_after (h : f.root.look (b.place f) = none)
    (hkeys : ∀ r ∈ requests, ∀ k ∈ r.key?, k.IsTrimmed)
    (huploads : uploads (b.shown requests f) = []) :
    b.Unused (b.after requests f) (b.shown requests f) := by
  refine after_invariant (b := b)
    (I := fun f history => uploads history = [] → b.Unused f history)
    (fun f x g history _ hstep hunused hnone => ?_) hkeys (fun _ => unused_of_look h) huploads
  rw [uploads_concat, List.append_eq_nil_iff, Option.toList_eq_nil_iff] at hnone
  exact (hunused hnone.1).step hstep hnone.2

/-- An upload changes the blobs under the keys that spell the names of its key, it changes how the
bucket says that it was created if its key is the name of the marker, and it changes no other blob
and no other thing that the bucket says. Before the first upload to a bucket whose directory was not
there its marker is its only blob, once it is created. -/
theorem uploads_isolated (b : DirectoryBucket) :
    (∀ k f g bytes, k.IsMade → b.perform (.upload k bytes) f = (.ok (), g) →
      (∀ k', k'.IsMade → k'.names ≠ k.names →
        (b.perform (.blobExists k') g).1 = (b.perform (.blobExists k') f).1 ∧
          (b.perform (.download k') g).1 = (b.perform (.download k') f).1) ∧
      (∀ k', k'.IsMade → k'.names = k.names → k'.isRelative = false →
        Files.pathFault? (b.root.join k'.text) = none →
        (b.perform (.blobExists k') g).1 = .ok true ∧
          (b.perform (.download k') g).1 = .ok bytes) ∧
      ∀ m, b.settings f = .ok (some m) →
        b.settings g =
          if k.text = Marker.fileName then (b.readMarker bytes).map some else .ok (some m)) ∧
    ∀ requests f, f.root.look (b.place f) = none →
      (∀ r ∈ requests, ∀ k ∈ r.key?, k.IsMade) → uploads (b.shown requests f) = [] →
      ∀ k, k.IsMade →
        ((b.perform (.blobExists k) (b.after requests f)).1 = .ok true ↔
          k.text = Marker.fileName ∧ creations (b.shown requests f) ≠ []) := by
  constructor
  · intro k f g bytes hmade hupload
    have hk := hmade.isTrimmed
    refine ⟨fun k' hk' hne => ?_, fun k' hk' hnames hrelative hpath => ?_, fun m hm => ?_⟩
    · have hblob := blob?_of_perform_upload_of_ne hk hk'.isTrimmed hupload hne
      simp only [perform_blobExists, perform_download, hblob, and_self]
    · have hblob := blob?_of_perform_upload hk hk'.isTrimmed hupload hnames hrelative hpath
      simp [perform_blobExists, perform_download, hblob, hrelative]
    · obtain ⟨old, hold, hread⟩ := exists_blob?_of_settings hm
      obtain ⟨-, hrelative, hreach⟩ := reachable_of_perform_upload hk hupload
      by_cases htext : k.text = Marker.fileName
      · obtain rfl := eq_markerKey_of_text htext
        rw [if_pos htext]
        exact settings_of_blob? (blob?_of_perform_upload hk hk hupload rfl hrelative hreach.path)
      · have hne : markerKey.names ≠ k.names := fun h =>
          htext (BlobKey.text_of_names hk hrelative (h.symm.trans names_markerKey))
        have hblob := blob?_of_perform_upload_of_ne hk isTrimmed_markerKey hupload hne
        rw [if_neg htext, settings_of_blob? (hblob.trans hold), hread]
        rfl
  · intro requests f hnone hkeys huploads k hmade
    have hk := hmade.isTrimmed
    have hunused := unused_after hnone (fun r hr k hk => (hkeys r hr k hk).isTrimmed) huploads
    rw [perform_blobExists]
    constructor
    · intro hexists
      cases hrelative : k.isRelative with
      | true => simp [hrelative] at hexists
      | false =>
        rw [hrelative] at hexists
        obtain ⟨bytes, hblob⟩ := Option.isSome_iff_exists.1 (Except.ok.inj hexists)
        obtain ⟨-, -, -, hlook⟩ := (blob?_eq_some_iff hk).1 hblob
        obtain ⟨hnames, hcreated⟩ :=
          hunused.marker k.names (BlobKey.names_ne_nil hk hrelative) bytes hlook
        exact ⟨BlobKey.text_of_names hk hrelative (hnames.trans names_markerKey), hcreated⟩
    · rintro ⟨htext, hcreated⟩
      obtain rfl := eq_markerKey_of_text htext
      simp [hunused.created hcreated]

/-- A directory for buckets in which there are none. -/
def sampleFiles : Files := { root := .directory [("buckets", .directory [])] }

/-- A bucket in this directory. -/
def sampleBucket : DirectoryBucket := ⟨⟨"/buckets"⟩, "vars"⟩

/-- How the bucket is created. -/
def sampleCreation : Request := .call (.createBucket "me-west1" .standard)

/-- A text is uploaded to the bucket. -/
def sampleUpload (key text : String) : Bucket.Call := .upload ⟨key.toList⟩ (Bytes.ofText text)

theorem eq_ok_of_isOk {x : Except Error Unit} (h : x.isOk) : x = .ok () := by
  cases x with
  | error e => cases h
  | ok a => rfl

/-- Of two files in one directory the second is uploaded while the first stays. -/
theorem uploads_isolated_sample :
    let f := sampleBucket.after [sampleCreation, .call (sampleUpload "dev/a" "one")] sampleFiles
    let g := (sampleBucket.perform (sampleUpload "dev/b" "two") f).2
    (sampleBucket.perform (.download ⟨"dev/a".toList⟩) g).1 =
        (sampleBucket.perform (.download ⟨"dev/a".toList⟩) f).1 ∧
      (sampleBucket.perform (.download ⟨"dev/b".toList⟩) g).1 = .ok (Bytes.ofText "two") ∧
      sampleBucket.settings g = .ok (some ⟨"me-west1", .standard⟩) ∧
      (sampleBucket.perform (.blobExists markerKey)
        (sampleBucket.after [sampleCreation] sampleFiles)).1 = .ok true := by
  intro f g
  have hfirst : BlobKey.IsMade ⟨"dev/a".toList⟩ := ⟨["dev", "a"], by decide +kernel⟩
  have hsecond : BlobKey.IsMade ⟨"dev/b".toList⟩ := ⟨["dev", "b"], by decide +kernel⟩
  have hmarker : markerKey.IsMade := ⟨[Marker.fileName], by decide +kernel⟩
  have hresult : (sampleBucket.perform (sampleUpload "dev/b" "two") f).1 = .ok () :=
    eq_ok_of_isOk (by decide +kernel)
  have hupload := (uploads_isolated sampleBucket).1 ⟨"dev/b".toList⟩ f g (Bytes.ofText "two")
    hsecond (Prod.ext hresult rfl)
  have hunused := (uploads_isolated sampleBucket).2 [sampleCreation] sampleFiles rfl
    (by simp [sampleCreation, Request.key?, Bucket.Call.key?]) (by decide +kernel) markerKey hmarker
  refine ⟨(hupload.1 _ hfirst (by decide +kernel)).2,
    (hupload.2.1 _ hsecond rfl (by decide +kernel) (by decide +kernel)).2, ?_, ?_⟩
  · exact hupload.2.2 _ (by decide +kernel)
  · exact hunused.2 ⟨by decide +kernel, by decide +kernel⟩

/-- Two keys that differ in an empty component are one blob, and the marker of a bucket is a blob
itself: it is there before anything is uploaded, and it can be uploaded. -/
theorem not_isolated :
    let new := sampleBucket.after [sampleCreation] sampleFiles
    let f := sampleBucket.after [sampleCreation, .call (sampleUpload "a/b" "one")] sampleFiles
    let k : BlobKey := ⟨"a/b".toList⟩
    let k' : BlobKey := ⟨"a//b".toList⟩
    let second := sampleBucket.perform (sampleUpload "a//b" "two") f
    let third := sampleBucket.perform
      (sampleUpload ".bucket.yaml" "location: elsewhere\nstorage_class: ARCHIVE\n") f
    (k.IsMade ∧ k'.IsMade ∧ k ≠ k' ∧ ¬ k.IsAbove k' ∧ ¬ k'.IsAbove k ∧ second.1 = .ok () ∧
        (sampleBucket.perform (.download k) f).1 = .ok (Bytes.ofText "one") ∧
        (sampleBucket.perform (.download k) second.2).1 = .ok (Bytes.ofText "two")) ∧
      (markerKey.IsMade ∧ third.1 = .ok () ∧
        sampleBucket.settings f = .ok (some ⟨"me-west1", .standard⟩) ∧
        sampleBucket.settings third.2 = .ok (some ⟨"elsewhere", .archive⟩)) ∧
      (sampleBucket.perform (.blobExists markerKey) new).1 = .ok true := by
  intro new f k k' second third
  have hsecond : second.1 = .ok () := eq_ok_of_isOk (by decide +kernel)
  have hthird : third.1 = .ok () := eq_ok_of_isOk (by decide +kernel)
  have hold : sampleBucket.blob? f k = some (Bytes.ofText "one") := by decide +kernel
  have hnew : sampleBucket.blob? second.2 k = some (Bytes.ofText "two") := by decide +kernel
  have hmarker : (sampleBucket.blob? new markerKey).isSome := by decide +kernel
  refine ⟨⟨⟨["a", "b"], by decide +kernel⟩, ⟨["a//b"], by decide +kernel⟩, by decide +kernel,
    fun h => absurd h.1 (by decide +kernel), fun h => absurd h.1 (by decide +kernel), hsecond, ?_,
    ?_⟩, ⟨⟨[Marker.fileName], by decide +kernel⟩, hthird, by decide +kernel, by decide +kernel⟩, ?_⟩
  · rw [perform_download, hold]
    rfl
  · rw [perform_download, hnew]
    rfl
  · rw [perform_blobExists, hmarker]
    rfl

end DeploySync.DirectoryBucket
