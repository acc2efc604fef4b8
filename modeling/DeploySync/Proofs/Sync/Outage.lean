import DeploySync.Proofs.Sync.Course
import DeploySync.Proofs.Sync.Upload

/-!
# Outages during synchronizations

On a bucket of an object store a synchronization sees absence only where the store says that
something is missing. Any other answer that reports no success ends it, nothing is asked for behind
it, and no file has changed.

## Main definitions

* `Sync.Downloads`, `Sync.Retrieves`, `Sync.Creates` — the courses of a download over a file, of a
  fetch, and of making sure of the bucket
* `Sync.DownloadAnswered`, `Sync.FetchAnswered`, `Sync.EnsureAnswered`, `Sync.UploadAnswered`,
  `Sync.OutageAnswered` — what synchronizations make of the answers of the store

## Main results

* `Sync.downloads`, `Sync.retrieves`, `Sync.creates` — there are no other courses
* `Sync.upload_answered` — an upload makes sure of the bucket first
* `Sync.outage_is_no_absence` — only an answer that something is missing is read as absence
-/

namespace DeploySync

open Plan (done)
open ObjectBucket (IsOutage found succeeded)

namespace Sync

open World (Sent)

variable {w : World} {b : ObjectBucket} {key : BlobKey} {destination : Path} {t : Target}
variable {α : Type} {xs : List Sent} {x : Sent}

/-! ### Downloads over files -/

/-- The courses that a download over a file can take, with the files behind it: the object is looked
up, downloaded, and written. -/
inductive Downloads (b : ObjectBucket) (key : BlobKey) (destination : Path) (f : Files) :
    List Sent → Except Error Bool → Files → Prop
  | lookupFailed {what : String} {xs : List Sent} {e : Error}
      (hlookup : Course b (.blobExists key) (found what) xs (.error e)) :
      Downloads b key destination f xs (.error e) f
  | absent {what : String} {xs : List Sent}
      (hlookup : Course b (.blobExists key) (found what) xs (.ok false)) :
      Downloads b key destination f xs (.ok false) f
  | failed {what : String} {xs ys : List Sent} {e : Error}
      (hlookup : Course b (.blobExists key) (found what) xs (.ok true))
      (hdownload : Course b (.download key) (b.content key) ys (.error e)) :
      Downloads b key destination f (xs ++ ys) (.error e) f
  | unwritable {what : String} {xs ys : List Sent} {bytes : ByteArray} {fault : FileFault}
      (hlookup : Course b (.blobExists key) (found what) xs (.ok true))
      (hdownload : Course b (.download key) (b.content key) ys (.ok bytes))
      (hnot : ¬ f.Writable destination) :
      Downloads b key destination f (xs ++ ys) (.error (.localFile destination fault)) f
  | written {what : String} {xs ys : List Sent} {bytes : ByteArray} {place : List String}
      {name : String} (hlookup : Course b (.blobExists key) (found what) xs (.ok true))
      (hdownload : Course b (.download key) (b.content key) ys (.ok bytes))
      (hplace : f.Lands destination place name) :
      Downloads b key destination f (xs ++ ys) (.ok true) (f.withFile (place ++ [name]) bytes)

/-- A download takes no other course. -/
theorem downloads (hw : w.Over b) (key : BlobKey) (destination : Path) :
    ∃ result w' xs, Runs b w (downloadIfExists key destination) result w' xs ∧
      Downloads b key destination w.files xs result w'.files := by
  rw [downloadIfExists_eq]
  obtain ⟨found?, w₁, hlooked, hlookup, hw₁, hfiles⟩ :=
    course (c := .blobExists key) (fun rounds => b.asksOnce_blobExists rounds key) hw
  rw [← hfiles]
  -- the lookup fails, finds nothing, or finds the object
  rcases found? with e | _ | _
  · exact ⟨_, w₁, _, .ask_error hlooked, .lookupFailed hlookup⟩
  · refine ⟨_, w₁, _, .ask_ok hlooked (.done b w₁ (.ok false)), ?_⟩
    rw [List.append_nil]
    exact .absent hlookup
  · obtain ⟨content?, w₂, hasked, hdownload, hw₂, hfiles'⟩ :=
      course (c := .download key) (fun rounds => b.asksOnce_download rounds key) hw₁
    cases content? with
    | error e =>
      refine ⟨_, w₂, _, .ask_ok hlooked (.ask_error hasked), ?_⟩
      rw [hfiles']
      exact .failed hlookup hdownload
    | ok bytes =>
      rcases World.perform_writeFile destination bytes w₂ with
        ⟨place, name, hplace, hwrite⟩ | ⟨hnot, fault, hwrite⟩
      · refine ⟨_, _, _,
          .ask_ok hlooked (.ask_ok hasked (.ask_ok hwrite (.done b _ (.ok true)))), ?_⟩
        rw [hfiles'] at hplace
        change Downloads b key destination w₁.files (_ ++ (_ ++ ([] ++ []))) _
          (w₂.files.withFile (place ++ [name]) bytes)
        rw [List.append_nil, List.append_nil, hfiles']
        exact .written hlookup hdownload hplace
      · refine ⟨_, w₂, _, .ask_ok hlooked (.ask_ok hasked (.ask_error hwrite)), ?_⟩
        rw [hfiles'] at hnot
        change Downloads b key destination w₁.files (_ ++ (_ ++ [])) _ w₂.files
        rw [List.append_nil, hfiles']
        exact .unwritable hlookup hdownload hnot

namespace Downloads

variable {f f' : Files} {result : Except Error Bool}

/-- The requests are those of the lookup and those of the download. -/
theorem exists_parts (h : Downloads b key destination f xs result f') :
    ∃ what ys zs looked, xs = ys ++ zs ∧ Course b (.blobExists key) (found what) ys looked ∧
      (∀ x ∈ zs, x.call = .download key) ∧ (looked ≠ .ok true → zs = []) ∧
      (result = .ok false ↔ looked = .ok false) := by
  cases h with
  | lookupFailed hlookup =>
    exact ⟨_, _, [], _, (List.append_nil _).symm, hlookup, List.forall_mem_nil _, fun _ => rfl,
      by simp⟩
  | absent hlookup =>
    exact ⟨_, _, [], _, (List.append_nil _).symm, hlookup, List.forall_mem_nil _, fun _ => rfl,
      Iff.rfl⟩
  | failed hlookup hdownload =>
    exact ⟨_, _, _, _, rfl, hlookup, hdownload.call, fun h => absurd rfl h, by simp⟩
  | unwritable hlookup hdownload hnot =>
    exact ⟨_, _, _, _, rfl, hlookup, hdownload.call, fun h => absurd rfl h, by simp⟩
  | written hlookup hdownload hplace =>
    exact ⟨_, _, _, _, rfl, hlookup, hdownload.call, fun h => absurd rfl h, by simp⟩

/-- Nothing is downloaded exactly if the lookup is answered with something missing, and then there
is no other request. -/
theorem eq_false_iff (h : Downloads b key destination f xs result f') :
    (result = .ok false ↔ ∃ x ∈ xs, x.call = .blobExists key ∧ x.IsMissing) ∧
      (result = .ok false → xs.length = 1) := by
  obtain ⟨what, ys, zs, looked, rfl, hlookup, hzs, hnil, hresult⟩ := h.exists_parts
  have hother : ∀ x ∈ zs, x.call ≠ .blobExists key := by
    intro x hx
    rw [hzs x hx]
    exact nofun
  rw [hlookup.exists_missing_iff hother]
  refine ⟨hresult, fun hfalse => ?_⟩
  obtain rfl := hresult.1 hfalse
  -- the lookup sent the request that was answered so, and there is no download
  obtain ⟨x, hx, -⟩ := hlookup.found_false_iff.1 rfl
  rw [hnil nofun, List.append_nil]
  have hle := hlookup.length_le
  have hpos := List.length_pos_of_mem hx
  omega

/-- The files change only if the blob was fetched. Then its content is written, if the file can be
written. -/
theorem files (h : Downloads b key destination f xs result f') :
    ((∀ bytes, ¬ Fetched xs key bytes) → f' = f) ∧
      ∀ bytes, Fetched xs key bytes →
        (f.Writable destination → result = .ok true ∧ f'.read destination = .ok bytes ∧
          ∃ place name, f.Lands destination place name ∧
            f' = f.withFile (place ++ [name]) bytes) ∧
        (¬ f.Writable destination →
          (∃ fault, result = .error (.localFile destination fault)) ∧ f' = f) := by
  cases h with
  | lookupFailed hlookup => exact ⟨fun _ => rfl, fun bytes h => absurd h hlookup.not_fetched⟩
  | absent hlookup => exact ⟨fun _ => rfl, fun bytes h => absurd h hlookup.not_fetched⟩
  | failed hlookup hdownload =>
    refine ⟨fun _ => rfl, fun bytes h => ?_⟩
    cases ((hlookup.fetched_iff hdownload).1 h).2
  | unwritable hlookup hdownload hnot =>
    exact ⟨fun _ => rfl, fun bytes _ => ⟨fun h => absurd h hnot, fun _ => ⟨⟨_, rfl⟩, rfl⟩⟩⟩
  | @written _ _ _ content place name hlookup hdownload hplace =>
    refine ⟨fun h => absurd ((hlookup.fetched_iff hdownload).2 ⟨rfl, rfl⟩) (h content),
      fun bytes h => ?_⟩
    obtain rfl := Except.ok.inj ((hlookup.fetched_iff hdownload).1 h).2
    exact ⟨fun _ => ⟨rfl, hplace.read_withFile content, place, name, hplace, rfl⟩,
      fun h => absurd ⟨place, name, hplace⟩ h⟩

/-- A download over a file that was made is one of a blob that was fetched, to a file that can be
written. -/
theorem eq_true_iff (h : Downloads b key destination f xs result f') :
    result = .ok true ↔ ∃ bytes, Fetched xs key bytes ∧ f.Writable destination := by
  constructor
  · rintro rfl
    cases h with
    | written hlookup hdownload hplace =>
      exact ⟨_, (hlookup.fetched_iff hdownload).2 ⟨rfl, rfl⟩, _, _, hplace⟩
  · rintro ⟨bytes, hfetched, hwritable⟩
    exact ((h.files.2 bytes hfetched).1 hwritable).1

/-- The blob is looked up, and downloaded behind a lookup that succeeds. -/
theorem sequence (h : Downloads b key destination f xs result f') :
    Sequence b (.blobExists key) (.download key) Sent.IsSuccess xs := by
  cases h with
  | lookupFailed hlookup => exact .one hlookup (hlookup.found_true_iff.not.1 nofun)
  | absent hlookup => exact .one hlookup (hlookup.found_true_iff.not.1 nofun)
  | failed hlookup hdownload => exact .two hlookup (hlookup.found_true_iff.1 rfl) hdownload
  | unwritable hlookup hdownload hnot =>
    exact .two hlookup (hlookup.found_true_iff.1 rfl) hdownload
  | written hlookup hdownload hplace =>
    exact .two hlookup (hlookup.found_true_iff.1 rfl) hdownload

theorem error_of_not (h : Downloads b key destination f xs result f') (hnot : ¬ b.Reachable) :
    ∃ e, result = .error e ∧ ∀ cause, e ≠ .notFound cause := by
  cases h with
  | lookupFailed hlookup => exact hlookup.error_of_not hnot
  | absent hlookup => exact absurd hlookup.reachable_of_ok hnot
  | failed hlookup hdownload => exact absurd hlookup.reachable_of_ok hnot
  | unwritable hlookup hdownload hnot' => exact absurd hlookup.reachable_of_ok hnot
  | written hlookup hdownload hplace => exact absurd hlookup.reachable_of_ok hnot

end Downloads

/-- What a download over a file makes of the answers of the store. It looks the blob up, and
downloads it behind a lookup that succeeds. It reports that there is nothing exactly if the lookup
is answered so, and then sends no further request. The files stay as they are unless the blob was
looked up with success and downloaded whole; then the file has its content, if it can be
written. -/
structure DownloadAnswered (b : ObjectBucket) (key : BlobKey) (destination : Path) (f : Files)
    (xs : List Sent) (result : Except Error Bool) (f' : Files) : Prop where
  sequence : Sequence b (.blobExists key) (.download key) Sent.IsSuccess xs
  unreachable : ¬ b.Reachable → ∃ e, result = .error e ∧ ∀ cause, e ≠ .notFound cause
  absent_iff : result = .ok false ↔ ∃ x ∈ xs, x.call = .blobExists key ∧ x.IsMissing
  absent_alone : result = .ok false → xs.length = 1
  downloaded_iff : result = .ok true ↔ ∃ bytes, Fetched xs key bytes ∧ f.Writable destination
  unchanged : (∀ bytes, ¬ Fetched xs key bytes) → f' = f
  written : ∀ bytes, Fetched xs key bytes → f.Writable destination →
    f'.read destination = .ok bytes ∧ ∃ place name, f.Lands destination place name ∧
      f' = f.withFile (place ++ [name]) bytes
  unwritable : ∀ bytes, Fetched xs key bytes → ¬ f.Writable destination →
    (∃ fault, result = .error (.localFile destination fault)) ∧ f' = f

theorem Downloads.answered {f f' : Files} {result : Except Error Bool}
    (h : Downloads b key destination f xs result f') :
    DownloadAnswered b key destination f xs result f' where
  sequence := h.sequence
  unreachable := h.error_of_not
  absent_iff := h.eq_false_iff.1
  absent_alone := h.eq_false_iff.2
  downloaded_iff := h.eq_true_iff
  unchanged := h.files.1
  written := fun bytes hfetched hwritable => ((h.files.2 bytes hfetched).1 hwritable).2
  unwritable := fun bytes hfetched hnot => (h.files.2 bytes hfetched).2 hnot

/-! ### Fetches -/

/-- The courses that the fetch of a blob can take that has to be there. -/
inductive Retrieves (b : ObjectBucket) (bucket : String) (key : BlobKey) (label : String) :
    List Sent → Except Error ByteArray → Prop
  | lookupFailed {what : String} {xs : List Sent} {e : Error}
      (hlookup : Course b (.blobExists key) (found what) xs (.error e)) :
      Retrieves b bucket key label xs (.error e)
  | absent {what : String} {xs : List Sent}
      (hlookup : Course b (.blobExists key) (found what) xs (.ok false)) :
      Retrieves b bucket key label xs (.error (.notFound (.document label bucket key.text)))
  | downloaded {what : String} {xs ys : List Sent} {result : Except Error ByteArray}
      (hlookup : Course b (.blobExists key) (found what) xs (.ok true))
      (hdownload : Course b (.download key) (b.content key) ys result) :
      Retrieves b bucket key label (xs ++ ys) result

/-- A fetch takes no other course. -/
theorem retrieves (hw : w.Over b) (bucket : String) (key : BlobKey) (label : String) :
    ∃ result w' xs, Runs b w (fetchRequired bucket key label) result w' xs ∧
      Retrieves b bucket key label xs result := by
  rw [fetchRequired_eq]
  obtain ⟨found?, w₁, hlooked, hlookup, hw₁, -⟩ :=
    course (c := .blobExists key) (fun rounds => b.asksOnce_blobExists rounds key) hw
  rcases found? with e | _ | _
  · exact ⟨_, w₁, _, .ask_error hlooked, .lookupFailed hlookup⟩
  · refine ⟨_, w₁, _, .ask_ok hlooked (.done b w₁ (.error _)), ?_⟩
    rw [List.append_nil]
    exact .absent hlookup
  · obtain ⟨result, w₂, hasked, hdownload, -, -⟩ :=
      course (c := .download key) (fun rounds => b.asksOnce_download rounds key) hw₁
    cases result with
    | error e =>
      exact ⟨_, w₂, _, .ask_ok hlooked (.ask_error hasked), .downloaded hlookup hdownload⟩
    | ok bytes =>
      refine ⟨_, w₂, _, .ask_ok hlooked (.ask_ok hasked (.done b w₂ (.ok bytes))), ?_⟩
      rw [List.append_nil]
      exact .downloaded hlookup hdownload

/-- A fetch reports something missing exactly if the lookup is answered so, or the download behind a
lookup that succeeds. -/
theorem Retrieves.notFound_iff {bucket label : String} {result : Except Error ByteArray}
    (h : Retrieves b bucket key label xs result) :
    (∃ cause, result = .error (.notFound cause)) ↔
      (∃ x ∈ xs, x.call = .blobExists key ∧ x.IsMissing) ∨
        (∃ x ∈ xs, x.call = .blobExists key ∧ x.IsSuccess) ∧
          ∃ x ∈ xs, x.call = .download key ∧ x.IsMissing := by
  cases h with
  | lookupFailed hlookup =>
    refine iff_of_false ?_ ?_
    · rintro ⟨cause, heq⟩
      exact hlookup.error_ne_notFound cause (Except.error.inj heq)
    · rintro (hmissing | ⟨hsuccess, -⟩)
      · rw [exists_call_iff hlookup.call, ← hlookup.found_false_iff] at hmissing
        cases hmissing
      · rw [exists_call_iff hlookup.call, ← hlookup.found_true_iff] at hsuccess
        cases hsuccess
  | absent hlookup =>
    refine iff_of_true ⟨_, rfl⟩ (.inl ?_)
    rw [exists_call_iff hlookup.call, ← hlookup.found_false_iff]
  | downloaded hlookup hdownload =>
    -- the lookup found something, so only the answer to the download counts
    have hother := hdownload.call_ne (.blobExists key) nofun
    rw [hlookup.exists_missing_iff hother, exists_call_append_iff hother,
      exists_call_iff hlookup.call, ← hlookup.found_true_iff,
      exists_append_call_iff (hlookup.call_ne (.download key) nofun),
      exists_call_iff hdownload.call, ← hdownload.content_notFound_iff]
    simp

/-- A fetch gives a content exactly if the blob was looked up with success and downloaded whole. -/
theorem Retrieves.ok_iff {bucket label : String} {result : Except Error ByteArray}
    (h : Retrieves b bucket key label xs result) (bytes : ByteArray) :
    result = .ok bytes ↔ Fetched xs key bytes := by
  cases h with
  | lookupFailed hlookup => exact iff_of_false nofun hlookup.not_fetched
  | absent hlookup => exact iff_of_false nofun hlookup.not_fetched
  | downloaded hlookup hdownload =>
    rw [hlookup.fetched_iff hdownload, eq_self_iff_true, true_and]

theorem Retrieves.sequence {bucket label : String} {result : Except Error ByteArray}
    (h : Retrieves b bucket key label xs result) :
    Sequence b (.blobExists key) (.download key) Sent.IsSuccess xs := by
  cases h with
  | lookupFailed hlookup => exact .one hlookup (hlookup.found_true_iff.not.1 nofun)
  | absent hlookup => exact .one hlookup (hlookup.found_true_iff.not.1 nofun)
  | downloaded hlookup hdownload => exact .two hlookup (hlookup.found_true_iff.1 rfl) hdownload

theorem Retrieves.error_of_not {bucket label : String} {result : Except Error ByteArray}
    (h : Retrieves b bucket key label xs result) (hnot : ¬ b.Reachable) :
    ∃ e, result = .error e ∧ ∀ cause, e ≠ .notFound cause := by
  cases h with
  | lookupFailed hlookup => exact ⟨_, rfl, hlookup.error_ne_notFound⟩
  | absent hlookup => exact absurd hlookup.reachable_of_ok hnot
  | downloaded hlookup hdownload => exact absurd hlookup.reachable_of_ok hnot

/-- What the fetch of a blob that has to be there makes of the answers of the store. It looks the
blob up, and downloads it behind a lookup that succeeds. It reports something missing exactly if
its lookup is answered so, or its download behind a lookup that succeeds. -/
structure FetchAnswered (b : ObjectBucket) (key : BlobKey) (xs : List Sent)
    (result : Except Error ByteArray) : Prop where
  sequence : Sequence b (.blobExists key) (.download key) Sent.IsSuccess xs
  unreachable : ¬ b.Reachable → ∃ e, result = .error e ∧ ∀ cause, e ≠ .notFound cause
  notFound_iff : (∃ cause, result = .error (.notFound cause)) ↔
    (∃ x ∈ xs, x.call = .blobExists key ∧ x.IsMissing) ∨
      (∃ x ∈ xs, x.call = .blobExists key ∧ x.IsSuccess) ∧
        ∃ x ∈ xs, x.call = .download key ∧ x.IsMissing
  fetched_iff : ∀ bytes, result = .ok bytes ↔ Fetched xs key bytes

theorem Retrieves.answered {bucket label : String} {result : Except Error ByteArray}
    (h : Retrieves b bucket key label xs result) : FetchAnswered b key xs result :=
  ⟨h.sequence, h.error_of_not, h.notFound_iff, h.ok_iff⟩

/-! ### Making sure of the bucket -/

/-- The courses that making sure of the bucket can take. -/
inductive Creates (b : ObjectBucket) (t : Target) : List Sent → Except Error Bool → Prop
  | lookupFailed {what : String} {xs : List Sent} {e : Error}
      (hlookup : Course b .bucketExists (found what) xs (.error e)) : Creates b t xs (.error e)
  | there {what : String} {xs : List Sent}
      (hlookup : Course b .bucketExists (found what) xs (.ok true)) : Creates b t xs (.ok false)
  | missing {what what' : String} {xs ys : List Sent} {result : Except Error Unit}
      (hlookup : Course b .bucketExists (found what) xs (.ok false))
      (hcreation : Course b (.createBucket t.region t.storageClass) (succeeded what') ys result) :
      Creates b t (xs ++ ys) (result.map fun _ => true)

/-- Making sure of the bucket takes no other course. -/
theorem creates (hw : w.Over b) (t : Target) :
    ∃ result w' xs, Runs b w (ensureBucket t) result w' xs ∧ Creates b t xs result := by
  rw [ensureBucket_eq]
  obtain ⟨found?, w₁, hlooked, hlookup, hw₁, -⟩ :=
    course (c := .bucketExists) (fun rounds => b.asksOnce_bucketExists rounds) hw
  rcases found? with e | _ | _
  · exact ⟨_, w₁, _, .ask_error hlooked, .lookupFailed hlookup⟩
  · obtain ⟨result, w₂, hasked, hcreation, -, -⟩ :=
      course (c := .createBucket t.region t.storageClass)
        (fun rounds => b.asksOnce_createBucket rounds t.region t.storageClass) hw₁
    cases result with
    | error e => exact ⟨_, w₂, _, .ask_ok hlooked (.ask_error hasked), .missing hlookup hcreation⟩
    | ok u =>
      refine ⟨_, w₂, _, .ask_ok hlooked (.ask_ok hasked (.done b w₂ (.ok true))), ?_⟩
      rw [List.append_nil]
      exact .missing hlookup hcreation
  · refine ⟨_, w₁, _, .ask_ok hlooked (.done b w₁ (.ok false)), ?_⟩
    rw [List.append_nil]
    exact .there hlookup

namespace Creates

variable {result : Except Error Bool}

/-- The bucket is looked up, and created behind a lookup that finds nothing. -/
theorem sequence (h : Creates b t xs result) :
    Sequence b .bucketExists (.createBucket t.region t.storageClass) Sent.IsMissing xs := by
  cases h with
  | lookupFailed hlookup => exact .one hlookup (hlookup.found_false_iff.not.1 nofun)
  | there hlookup => exact .one hlookup (hlookup.found_false_iff.not.1 nofun)
  | missing hlookup hcreation => exact .two hlookup (hlookup.found_false_iff.1 rfl) hcreation

theorem error_of_not (h : Creates b t xs result) (hnot : ¬ b.Reachable) :
    ∃ e, result = .error e ∧ ∀ cause, e ≠ .notFound cause := by
  cases h with
  | lookupFailed hlookup => exact hlookup.error_of_not hnot
  | there hlookup => exact absurd hlookup.reachable_of_ok hnot
  | missing hlookup hcreation => exact absurd hlookup.reachable_of_ok hnot

/-- The bucket was there exactly if its lookup succeeded. -/
theorem eq_false_iff (h : Creates b t xs result) :
    result = .ok false ↔ ∃ x ∈ xs, x.call = .bucketExists ∧ x.IsSuccess := by
  cases h with
  | lookupFailed hlookup =>
    rw [exists_call_iff hlookup.call, ← hlookup.found_true_iff]
    exact iff_of_false nofun nofun
  | there hlookup =>
    rw [exists_call_iff hlookup.call, ← hlookup.found_true_iff]
    exact iff_of_true rfl rfl
  | @missing what what' xs ys created hlookup hcreation =>
    rw [exists_call_append_iff (hcreation.call_ne .bucketExists nofun),
      exists_call_iff hlookup.call, ← hlookup.found_true_iff]
    refine iff_of_false ?_ nofun
    cases created <;> nofun

/-- The bucket is new exactly if its creation succeeded. -/
theorem eq_true_iff (h : Creates b t xs result) :
    result = .ok true ↔
      ∃ x ∈ xs, x.call = .createBucket t.region t.storageClass ∧ x.IsSuccess := by
  -- a lookup creates nothing
  have hlookup_only {what : String} {zs : List Sent} {looked : Except Error Bool}
      (hlookup : Course b .bucketExists (found what) zs looked) :
      ¬ ∃ x ∈ zs, x.call = .createBucket t.region t.storageClass ∧ x.IsSuccess := by
    rintro ⟨x, hx, hcall, -⟩
    exact hlookup.call_ne (.createBucket t.region t.storageClass) nofun x hx hcall
  cases h with
  | lookupFailed hlookup => exact iff_of_false nofun (hlookup_only hlookup)
  | there hlookup => exact iff_of_false nofun (hlookup_only hlookup)
  | @missing what what' xs ys created hlookup hcreation =>
    rw [exists_append_call_iff (hlookup.call_ne (.createBucket t.region t.storageClass) nofun),
      exists_call_iff hcreation.call, ← hcreation.succeeded_iff]
    cases created <;> simp [Except.map]

end Creates

/-- What making sure of the bucket makes of the answers of the store. The bucket is looked up, and
created exactly if its lookup is answered with something missing. -/
structure EnsureAnswered (b : ObjectBucket) (t : Target) (xs : List Sent)
    (result : Except Error Bool) : Prop where
  sequence : Sequence b .bucketExists (.createBucket t.region t.storageClass) Sent.IsMissing xs
  unreachable : ¬ b.Reachable → ∃ e, result = .error e ∧ ∀ cause, e ≠ .notFound cause
  creates_iff : (∃ x ∈ xs, x.call = .createBucket t.region t.storageClass) ↔
    ∃ x ∈ xs, x.call = .bucketExists ∧ x.IsMissing
  there_iff : result = .ok false ↔ ∃ x ∈ xs, x.call = .bucketExists ∧ x.IsSuccess
  created_iff : result = .ok true ↔
    ∃ x ∈ xs, x.call = .createBucket t.region t.storageClass ∧ x.IsSuccess

theorem Creates.answered {result : Except Error Bool} (h : Creates b t xs result) :
    EnsureAnswered b t xs result :=
  ⟨h.sequence, h.error_of_not, h.sequence.second_iff nofun, h.eq_false_iff, h.eq_true_iff⟩

/-- What an upload makes of the answers of the store. Reading its inputs sends nothing; if it fails
nothing is sent at all. Otherwise it makes sure of the bucket, and goes on if that succeeds, with
requests that do not ask for the bucket and do not create it. -/
structure UploadAnswered (b : ObjectBucket) (w : World) (u : Upload) : Prop where
  creates_iff : (∃ x ∈ World.sent b u.plan w,
      x.call = .createBucket u.target.region u.target.storageClass) ↔
    ∃ x ∈ World.sent b u.plan w, x.call = .bucketExists ∧ x.IsMissing
  unread : ∀ e, (w.run u.prepare).1 = .error e →
    World.sent b u.plan w = [] ∧ (w.run u.plan).1 = .error e
  ensured : (w.run u.prepare).1.isOk →
    ∃ result xs ys, World.sent b u.plan w = xs ++ ys ∧ EnsureAnswered b u.target xs result ∧
      (∀ e, result = .error e → ys = [] ∧ (w.run u.plan).1 = .error e) ∧
      ∀ y ∈ ys, y.call ≠ .bucketExists ∧
        ∀ location storageClass, y.call ≠ .createBucket location storageClass

/-- Storing sends no requests about the bucket itself. -/
theorem call_ne_of_storing {keys : List BlobKey} {p : Plan α} (hp : p.Asks (IsStoring keys))
    (w : World) : ∀ y ∈ World.sent b p w, y.call ≠ .bucketExists ∧
      ∀ location storageClass, y.call ≠ .createBucket location storageClass := by
  intro y hy
  have hstoring := World.call_of_mem_sent hp w y hy
  refine ⟨fun hcall => ?_, fun location storageClass hcall => ?_⟩ <;>
    · rw [hcall] at hstoring
      exact hstoring

/-- An upload makes sure of the bucket first. -/
theorem upload_answered (hw : w.Over b) (u : Upload) : UploadAnswered b w u := by
  -- reading the documents sends nothing
  have hread : World.sent b u.prepare w = [] := World.sent_of_asks_reading u.asks_prepare w
  have hplan := u.plan_eq
  rcases hprepare : w.run u.prepare with ⟨e | read, w₁⟩
  · have hsent : World.sent b u.plan w = [] := by
      rw [hplan, World.sent_bind_error hprepare, hread]
    refine ⟨by simp [hsent], fun e' heq => ⟨hsent, ?_⟩, fun hok => ?_⟩
    · rw [hprepare] at heq
      rw [hplan, World.run, Plan.run_bind_error hprepare]
      exact congrArg Except.error (Except.error.inj heq)
    · rw [hprepare] at hok
      cases hok
  · obtain ⟨result, w₂, xs, hensure, hcreates⟩ := creates (hw.run hprepare) u.target
    obtain ⟨ys, hsent, hfail, hys⟩ : ∃ ys, World.sent b u.plan w = xs ++ ys ∧
        (∀ e, result = .error e → ys = [] ∧ (w.run u.plan).1 = .error e) ∧
        ∀ y ∈ ys, y.call ≠ .bucketExists ∧
          ∀ location storageClass, y.call ≠ .createBucket location storageClass := by
      rw [hplan, World.sent_bind_ok hprepare, hread, List.nil_append, World.run,
        Plan.run_bind_ok hprepare, store]
      cases result with
      | error e =>
        refine ⟨[], ?_, ?_, List.forall_mem_nil _⟩
        · rw [World.sent_bind_error hensure.run, hensure.sent, List.append_nil]
        · rintro e' heq
          rw [Plan.run_bind_error hensure.run, Except.error.inj heq]
          exact ⟨rfl, rfl⟩
      | ok isNew =>
        have hstoring := (asks_publish u.target.storageClass
          (List.Subset.refl (keysOf read.1))).bind fun _ => Plan.asks_done (.ok read.2)
        rw [World.sent_bind_ok hensure.run, hensure.sent]
        exact ⟨_, rfl, (fun e he => by cases he), call_ne_of_storing hstoring w₂⟩
    refine ⟨?_, fun e heq => ?_,
      fun _ => ⟨result, xs, ys, hsent, hcreates.answered, hfail, hys⟩⟩
    · -- what is sent behind the bucket asks for it no more, and does not create it
      rw [hsent, exists_call_append_iff fun y hy => (hys y hy).1, ← hcreates.answered.creates_iff]
      constructor
      · rintro ⟨x, hx, hcall⟩
        rcases List.mem_append.1 hx with hx | hx
        · exact ⟨x, hx, hcall⟩
        · exact absurd hcall ((hys x hx).2 _ _)
      · rintro ⟨x, hx, hcall⟩
        exact ⟨x, List.mem_append_left _ hx, hcall⟩
    · rw [hprepare] at heq
      cases heq

/-! ### What synchronizations make of answers -/

/-- What a synchronization makes of an outage. Its requests get the answers of the store in order,
and an answer that reports an outage is the last one: the synchronization ends with an error that
tells the status and the text without the blanks around it. -/
structure OutageAnswered (b : ObjectBucket) (w : World) (p : Plan α) : Prop where
  makes : ∀ x ∈ World.sent b p w, b.Makes x.call x.request
  answers : (World.sent b p w).map (·.answer) =
    Http.answers ((World.sent b p w).map (·.request)) w.network
  ends : ∀ before x after response, World.sent b p w = before ++ x :: after →
    x.answer = .ok response → IsOutage x.call response →
      after = [] ∧ ∃ (e : StorageCause) (what : String),
        (w.run p).1 = .error (.storage e) ∧
        e.message = s!"{what} failed with status {response.status.text}: {Text.trim response.text}"

/-- What synchronizations make of the answers of an object store, whatever these are. Only an answer
that something is missing is read as absence: of the blob by a download and by a fetch, of the
bucket by making sure of it and so by both uploads. Any other answer that reports no success ends
the synchronization with an error. -/
theorem outage_is_no_absence (hw : w.Over b) :
    (∀ key destination,
      DownloadAnswered b key destination w.files
        (World.sent b (downloadIfExists key destination) w)
        (w.run (downloadIfExists key destination)).1
        (w.run (downloadIfExists key destination)).2.files) ∧
    (∀ t, EnsureAnswered b t (World.sent b (ensureBucket t) w) (w.run (ensureBucket t)).1) ∧
    (∀ u, UploadAnswered b w u) ∧
    (∀ bucket key label,
      FetchAnswered b key (World.sent b (fetchRequired bucket key label) w)
        (w.run (fetchRequired bucket key label)).1) ∧
    ∀ (β : Type) (p : Plan β), OutageAnswered b w p := by
  refine ⟨fun key destination => ?_, fun t => ?_, fun u => upload_answered hw u,
    fun bucket key label => ?_, fun β p =>
      ⟨World.makes_of_mem_sent p w, World.answers_sent hw p, ?_⟩⟩
  · obtain ⟨result, w', xs, hruns, hdownloads⟩ := downloads hw key destination
    rw [hruns.run, hruns.sent]
    exact hdownloads.answered
  · obtain ⟨result, w', xs, hruns, hcreates⟩ := creates hw t
    rw [hruns.run, hruns.sent]
    exact hcreates.answered
  · obtain ⟨result, w', xs, hruns, hretrieves⟩ := retrieves hw bucket key label
    rw [hruns.run, hruns.sent]
    exact hretrieves.answered
  · intro before x after response hsent hanswer hout
    obtain ⟨hafter, what, herror⟩ := World.sent_outage hw hsent hanswer hout
    exact ⟨hafter, _, what, herror, rfl⟩

/-- A world whose bucket is one of an object store that answers with statuses. -/
def sampleOver (statuses : List Nat) : World where
  surroundings := { World.sample.surroundings with
    network := statuses.map fun code => .ok ⟨⟨code⟩, [.ok "later\n".toUTF8]⟩ }
  holder := .store (.objects ObjectBucket.sampleBucket)

/-- The first request over the sample gets the answer with the first status. -/
theorem exists_first_sample {first second : Bucket.Call} {goesOn : Sent → Prop} {code : Nat}
    {statuses : List Nat} {p : Plan α}
    (hanswered : OutageAnswered ObjectBucket.sampleBucket (sampleOver (code :: statuses)) p)
    (hsequence : Sequence ObjectBucket.sampleBucket first second goesOn
      (World.sent ObjectBucket.sampleBucket p (sampleOver (code :: statuses))))
    (hreachable : ObjectBucket.sampleBucket.Reachable) :
    ∃ x ∈ World.sent ObjectBucket.sampleBucket p (sampleOver (code :: statuses)),
      x.call = first ∧ x.answer = .ok ⟨⟨code⟩, [.ok "later\n".toUTF8]⟩ := by
  obtain ⟨x, ys, hsent, hcall, -⟩ := hsequence.reachable hreachable
  have hanswers := hanswered.answers
  rw [hsent] at hanswers
  rw [hsent]
  exact ⟨x, List.mem_cons_self, hcall, (List.cons.inj hanswers).1⟩

theorem outage_is_no_absence_sample :
    let b := ObjectBucket.sampleBucket
    let key : BlobKey := ⟨"k".toList⟩
    let t : Target := ⟨"vars", "me-west1", .standard⟩
    b.Reachable ∧
    (sampleOver [404]).Over b ∧
    ((sampleOver [404]).run (downloadIfExists key ⟨"/stage/k"⟩)).1 = .ok false ∧
    (∃ cause, ((sampleOver [404]).run
      (fetchRequired (sampleOver [404]).holder.bucketName key "Metadata")).1 =
        .error (.notFound cause)) ∧
    (sampleOver [404, 200]).Over b ∧
    (∃ x ∈ World.sent b (ensureBucket t) (sampleOver [404, 200]),
      x.call = .createBucket "me-west1" .standard) ∧
    ((sampleOver [404, 200]).run (ensureBucket t)).1 = .ok true ∧
    (sampleOver [503]).Over b ∧
    ∃ (e : StorageCause) (what : String),
      ((sampleOver [503]).run (downloadIfExists key ⟨"/stage/k"⟩)).1 = .error (.storage e) ∧
        e.message =
          what ++ " failed with status " ++ "503 Service Unavailable" ++ ": " ++ "later" := by
  intro b key t
  have hreachable : b.Reachable :=
    ⟨⟨_, rfl⟩, by decide, by decide, by simp [b, ObjectBucket.authorization,
      ObjectBucket.sampleBucket]⟩
  have hstatus : Http.Status.text ⟨503⟩ = "503 Service Unavailable" := by decide +kernel
  have htext : Text.trim (Http.Response.text ⟨⟨503⟩, [.ok "later\n".toUTF8]⟩) = "later" := by
    decide +kernel
  have hover (statuses : List Nat) : (sampleOver statuses).Over b := ⟨rfl, rfl⟩
  obtain ⟨hdownload, -, -, hfetch, hsent⟩ := outage_is_no_absence (hover [404])
  obtain ⟨-, hensure, -, -, hsent'⟩ := outage_is_no_absence (hover [404, 200])
  obtain ⟨hdownload', -, -, -, hsent''⟩ := outage_is_no_absence (hover [503])
  refine ⟨hreachable, hover _, ?_, ?_, hover _, ?_, ?_, hover _, ?_⟩
  · obtain ⟨x, hx, hcall, hanswer⟩ :=
      exists_first_sample (hsent _ _) (hdownload key ⟨"/stage/k"⟩).sequence hreachable
    exact (hdownload key ⟨"/stage/k"⟩).absent_iff.2 ⟨x, hx, hcall, _, hanswer, rfl⟩
  · obtain ⟨x, hx, hcall, hanswer⟩ :=
      exists_first_sample (hsent _ _) (hfetch "vars" key "Metadata").sequence hreachable
    exact (hfetch "vars" key "Metadata").notFound_iff.2 (.inl ⟨x, hx, hcall, _, hanswer, rfl⟩)
  · obtain ⟨x, hx, hcall, hanswer⟩ :=
      exists_first_sample (hsent' _ _) (hensure t).sequence hreachable
    exact (hensure t).creates_iff.2 ⟨x, hx, hcall, _, hanswer, rfl⟩
  · -- the lookup and the creation get the two answers
    obtain ⟨x, ys, hxs, hcall, hgoes, hends⟩ := (hensure t).sequence.reachable hreachable
    have hanswers := (hsent' _ (ensureBucket t)).answers
    rw [hxs] at hanswers
    obtain ⟨hx, hys⟩ := List.cons.inj hanswers
    obtain ⟨y, rfl, hcall'⟩ := hgoes ⟨_, hx, rfl⟩
    obtain ⟨hy, -⟩ := List.cons.inj hys
    exact (hensure t).created_iff.2 ⟨y, by simp [hxs], hcall', _, hy, rfl⟩
  · obtain ⟨x, ys, hxs, hcall, -⟩ := (hdownload' key ⟨"/stage/k"⟩).sequence.reachable hreachable
    have hanswers := (hsent'' _ (downloadIfExists key ⟨"/stage/k"⟩)).answers
    rw [hxs] at hanswers
    obtain ⟨-, e, what, herror, hmessage⟩ := (hsent'' _ (downloadIfExists key ⟨"/stage/k"⟩)).ends
      [] x ys _ hxs (List.cons.inj hanswers).1 ⟨rfl, nofun⟩
    rw [hstatus, htext] at hmessage
    exact ⟨e, what, herror, hmessage⟩

end Sync

end DeploySync
