import DeploySync.Proofs.Bucket.Directory

/-!
# Serving a bucket kept as a directory

Requests to a bucket are calls, and the question how it was created. They are served one after the
other, and what was answered tells what was uploaded and created.

## Main definitions

* `DirectoryBucket.Request` — what can be asked
* `DirectoryBucket.after`, `DirectoryBucket.shown` — the files and the answers of requests
* `DirectoryBucket.uploads`, `DirectoryBucket.creations` — what succeeded
* `DirectoryBucket.Step` — everything that a request can do

## Main results

* `DirectoryBucket.answer_step` — a request does one of these things
* `DirectoryBucket.after_invariant` — what every step keeps, a run keeps
-/

namespace DeploySync

/-- The key that a call is about. -/
def Bucket.Call.key? : Bucket.Call → Option BlobKey
  | .bucketExists => none
  | .createBucket .. => none
  | .blobExists key => some key
  | .download key => some key
  | .upload key _ => some key
  | .setClass key _ => some key

namespace DirectoryBucket

/-- What can be asked of a bucket: a call, or how it was created. -/
inductive Request where
  | call (c : Bucket.Call)
  | settings

/-- The type of the answer to a request. -/
def Request.Answer : Request → Type
  | .call c => c.Answer
  | .settings => Option Marker

/-- The key that a request is about. -/
def Request.key? : Request → Option BlobKey
  | .call c => c.key?
  | .settings => none

/-- A request with what was answered. -/
abbrev Shown := Plan.Answered Request Request.Answer

/-- Answers a request on files in memory. -/
def answer (b : DirectoryBucket) : Plan.Handler Request Request.Answer Files
  | .call c, f => b.perform c f
  | .settings, f => b.marker.run Files.perform f

/-- The files behind requests that are served one after the other, whether they succeed or not. -/
def after (b : DirectoryBucket) : List Request → Files → Files
  | [], f => f
  | r :: rest, f => b.after rest (b.answer r f).2

/-- The answers to requests that are served one after the other. -/
def shown (b : DirectoryBucket) : List Request → Files → List Shown
  | [], _ => []
  | r :: rest, f => ⟨r, (b.answer r f).1⟩ :: b.shown rest (b.answer r f).2

/-- The key and the bytes of an upload that succeeded. -/
def uploaded? : Shown → Option (BlobKey × ByteArray)
  | ⟨.call (.upload key bytes), .ok _⟩ => some (key, bytes)
  | _ => none

/-- How the bucket was created, if it was with success. -/
def created? : Shown → Option Marker
  | ⟨.call (.createBucket location c), .ok _⟩ => some ⟨location, c⟩
  | _ => none

/-- The successful uploads in order. -/
def uploads (shown : List Shown) : List (BlobKey × ByteArray) := shown.filterMap uploaded?

/-- The successful creations in order. -/
def creations (shown : List Shown) : List Marker := shown.filterMap created?

variable {b : DirectoryBucket} {f g : Files} {requests : List Request}

variable {history : List Shown} {x : Shown}

theorem uploads_concat (history : List Shown) (x : Shown) :
    uploads (history ++ [x]) = uploads history ++ (uploaded? x).toList := by
  rw [uploads, List.filterMap_append]
  cases hx : uploaded? x <;> simp [uploads, hx]

theorem creations_concat (history : List Shown) (x : Shown) :
    creations (history ++ [x]) = creations history ++ (created? x).toList := by
  rw [creations, List.filterMap_append]
  cases hx : created? x <;> simp [creations, hx]

theorem uploads_concat_of_none (hx : uploaded? x = none) :
    uploads (history ++ [x]) = uploads history := by
  rw [uploads_concat, hx, Option.toList_none, List.append_nil]

theorem creations_concat_of_none (hx : created? x = none) :
    creations (history ++ [x]) = creations history := by
  rw [creations_concat, hx, Option.toList_none, List.append_nil]

/-! ### Steps -/

/-- Everything that a request can do: it asks for something and changes nothing, or it uploads a
blob or creates the bucket, or it fails to. -/
inductive Step (b : DirectoryBucket) (f : Files) : Shown → Files → Prop
  | asked {x : Shown} (uploaded : uploaded? x = none) (created : created? x = none) : b.Step f x f
  | uploaded {k : BlobKey} {bytes : ByteArray} {g : Files} (isTrimmed : k.IsTrimmed)
      (success : b.perform (.upload k bytes) f = (.ok (), g)) :
      b.Step f ⟨.call (.upload k bytes), .ok ()⟩ g
  | notUploaded {k : BlobKey} {bytes : ByteArray} {g : Files} {e : Error}
      (grown : Files.Grown f g (b.IsAboveFile f k))
      (unchanged : (f.isDirectory b.root → k.isRelative = false → b.Reachable k) → g = f) :
      b.Step f ⟨.call (.upload k bytes), .error e⟩ g
  | created {location : String} {c : StorageClass} {g : Files}
      (success : b.perform (.createBucket location c) f = (.ok (), g)) :
      b.Step f ⟨.call (.createBucket location c), .ok ()⟩ g
  | notCreated {location : String} {c : StorageClass} {g : Files} {e : Error}
      (grown : Files.Grown f g (b.IsOnTheWay f)) :
      b.Step f ⟨.call (.createBucket location c), .error e⟩ g

theorem upload_step {k : BlobKey} (hk : k.IsTrimmed) (bytes : ByteArray) (f : Files) :
    b.Step f ⟨.call (.upload k bytes), (b.perform (.upload k bytes) f).1⟩
      (b.perform (.upload k bytes) f).2 := by
  rcases hrun : b.perform (.upload k bytes) f with ⟨e | ⟨⟩, g⟩
  · refine .notUploaded (grown_of_perform_upload hk hrun) fun hreach => ?_
    -- wherever the upload stops, nothing was created before
    obtain ⟨e', he'⟩ : ∃ e, b.perform (.upload k bytes) f = (.error e, f) := by
      cases hdir : f.isDirectory b.root with
      | false => exact ⟨_, perform_upload_of_not hdir⟩
      | true =>
        cases hrelative : k.isRelative with
        | true => exact ⟨_, perform_upload_of_isRelative hdir hrelative⟩
        | false =>
          by_cases hroom : b.HasRoom f k
          · obtain ⟨g', hg', -⟩ :=
              perform_upload_of_hasRoom hdir hk hrelative (hreach hdir hrelative) hroom bytes
            rw [hrun] at hg'
            cases hg'
          · exact perform_upload_of_not_hasRoom hdir hk hrelative (hreach hdir hrelative) hroom
              bytes
    rw [hrun] at he'
    exact (Prod.mk.inj he').2
  · exact .uploaded hk hrun

/-- A request does one of these things. -/
theorem answer_step (r : Request) (hr : ∀ k ∈ r.key?, k.IsTrimmed) (f : Files) :
    b.Step f ⟨r, (b.answer r f).1⟩ (b.answer r f).2 := by
  rcases r with ⟨c⟩ | -
  · cases c with
    | bucketExists => exact .asked rfl rfl
    | createBucket location c =>
      rcases hrun : b.perform (.createBucket location c) f with ⟨e | ⟨⟩, g⟩
      · rw [answer, hrun]
        exact .notCreated (grown_of_perform_create hrun)
      · rw [answer, hrun]
        exact .created hrun
    | blobExists k =>
      rw [answer, perform_blobExists]
      exact .asked rfl rfl
    | download k =>
      rw [answer, perform_download]
      exact .asked rfl rfl
    | upload k bytes => exact upload_step (hr k rfl) bytes f
    | setClass k c =>
      rw [answer, perform_setClass]
      exact .asked rfl rfl
  · have hsame : (b.answer .settings f).2 = f := congrArg Prod.snd (run_marker b f)
    rw [hsame]
    exact .asked rfl rfl

/-- An invariant of the files and of what was answered before, which every step keeps, is kept by
requests that are served one after the other. -/
theorem after_invariant {I : Files → List Shown → Prop}
    (step : ∀ f x g history, x.1 ∈ requests → b.Step f x g → I f history → I g (history ++ [x]))
    (hkeys : ∀ r ∈ requests, ∀ k ∈ r.key?, k.IsTrimmed) (h : I f history) :
    I (b.after requests f) (history ++ b.shown requests f) := by
  induction requests generalizing f history with
  | nil => rwa [shown, List.append_nil]
  | cons r rest ih =>
    have hstep := answer_step (b := b) r (hkeys r List.mem_cons_self) f
    have hnext := step f _ _ history List.mem_cons_self hstep h
    have hrest := ih (fun f x g history hx => step f x g history (List.mem_cons_of_mem _ hx))
      (fun r hr => hkeys r (List.mem_cons_of_mem _ hr)) hnext
    rwa [List.append_assoc, List.singleton_append] at hrest

end DirectoryBucket

end DeploySync
