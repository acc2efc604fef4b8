import DeploySync.Bucket.Memory
import DeploySync.Bytes
import Mathlib.Logic.Basic

/-!
# What calls do to a bucket in memory

What can be seen of a bucket in memory is whether it is there, and the bytes and the storage class
under each key. A call changes at most one of these, and storing texts under keys overwrites what
earlier attempts to store them left behind.

## Main definitions

* `MemoryBucket.Alike` — two buckets in which the same can be seen
* `MemoryBucket.storing` — the bucket with texts stored under keys, each with its storage class
* `MemoryBucket.AlikeOutside` — two buckets in which the same can be seen under all keys but some

## Main results

* `blob?_perform`, `class?_perform`, `isThere_perform` — what a call changes
* `storing_congr` — behind `storing` nothing depends on what stood under its keys
-/

namespace DeploySync.MemoryBucket

variable {b b' b'' : MemoryBucket} {key k : BlobKey} {text : String} {c : StorageClass}

/-- The same can be seen in two buckets. -/
structure Alike (b b' : MemoryBucket) : Prop where
  isThere : b.isThere = b'.isThere
  blob? : ∀ k, b.blob? k = b'.blob? k
  class? : ∀ k, b.class? k = b'.class? k

/-- The same can be seen in two buckets under all keys but some. -/
structure AlikeOutside (keys : List BlobKey) (b b' : MemoryBucket) : Prop where
  blob? : ∀ k ∉ keys, b.blob? k = b'.blob? k
  class? : ∀ k ∉ keys, b.class? k = b'.class? k

theorem AlikeOutside.refl (keys : List BlobKey) (b : MemoryBucket) : AlikeOutside keys b b :=
  ⟨fun _ _ => rfl, fun _ _ => rfl⟩

theorem AlikeOutside.trans {keys : List BlobKey} (h : AlikeOutside keys b b')
    (h' : AlikeOutside keys b' b'') : AlikeOutside keys b b'' where
  blob? k hk := (h.blob? k hk).trans (h'.blob? k hk)
  class? k hk := (h.class? k hk).trans (h'.class? k hk)

/-! ### Single calls -/

theorem blob?_put (b : MemoryBucket) (key k : BlobKey) (bytes : ByteArray) :
    { b with blobs := Table.put key bytes b.blobs }.blob? k =
      if k = key then some bytes else b.blob? k :=
  Table.lookup_put key k bytes b.blobs

theorem class?_put (b : MemoryBucket) (key k : BlobKey) (c : StorageClass) :
    { b with classes := Table.put key c b.classes }.class? k =
      if k = key then some c else b.class? k :=
  Table.lookup_put key k c b.classes

/-- An upload to a bucket that is there puts the bytes under its key; no other call changes the
bytes under a key. -/
theorem blob?_perform (b : MemoryBucket) (call : Bucket.Call) (k : BlobKey) :
    (b.perform call).2.blob? k =
      match call with
      | .upload key bytes => if b.isThere ∧ k = key then some bytes else b.blob? k
      | _ => b.blob? k := by
  cases call with
  | bucketExists => rfl
  | createBucket location c =>
    rw [perform]
    split <;> rfl
  | blobExists key => rfl
  | download key =>
    rw [perform]
    split <;> rfl
  | upload key bytes =>
    rw [perform]
    by_cases hb : b.isThere
    · rw [if_pos hb]
      refine (blob?_put b key k bytes).trans ?_
      exact if_congr (by rw [and_iff_right hb]) rfl rfl
    · rw [if_neg hb]
      exact (if_neg fun h => hb h.1).symm
  | setClass key c =>
    rw [perform]
    split <;> rfl

/-- Setting the class of a blob that is there puts it under its key; no other call changes the
class under a key. -/
theorem class?_perform (b : MemoryBucket) (call : Bucket.Call) (k : BlobKey) :
    (b.perform call).2.class? k =
      match call with
      | .setClass key c => if (b.blob? key).isSome ∧ k = key then some c else b.class? k
      | _ => b.class? k := by
  cases call with
  | bucketExists => rfl
  | createBucket location c =>
    rw [perform]
    split <;> rfl
  | blobExists key => rfl
  | download key =>
    rw [perform]
    split <;> rfl
  | upload key bytes =>
    rw [perform]
    split <;> rfl
  | setClass key c =>
    rw [perform]
    by_cases hb : (b.blob? key).isSome
    · rw [if_pos hb]
      refine (class?_put b key k c).trans ?_
      exact if_congr (by rw [and_iff_right hb]) rfl rfl
    · rw [if_neg hb]
      exact (if_neg fun h => hb h.1).symm

/-- Creating the bucket makes it be there; no other call changes whether it is. -/
theorem isThere_perform (b : MemoryBucket) (call : Bucket.Call) :
    (b.perform call).2.isThere =
      match call with
      | .createBucket .. => true
      | _ => b.isThere := by
  cases call with
  | bucketExists => rfl
  | createBucket location c =>
    rw [perform]
    by_cases hb : b.isThere
    · rw [if_pos hb]
      exact hb
    · rw [if_neg hb]
  | blobExists key => rfl
  | download key =>
    rw [perform]
    split <;> rfl
  | upload key bytes =>
    rw [perform]
    split <;> rfl
  | setClass key c =>
    rw [perform]
    split <;> rfl

/-- A bucket that is there stays. -/
theorem isThere_perform_of_isThere (hb : b.isThere) (call : Bucket.Call) :
    (b.perform call).2.isThere := by
  rw [isThere_perform]
  cases call <;> first | rfl | exact hb

/-- A bucket is created where there is none. -/
theorem perform_createBucket (hb : b.isThere = false) (location : String) (c : StorageClass) :
    b.perform (.createBucket location c) = (.ok (), { b with isThere := true }) := by
  rw [perform, if_neg (by simp [hb])]

/-- A bucket that is there takes a blob. -/
theorem perform_upload (hb : b.isThere) (key : BlobKey) (bytes : ByteArray) :
    b.perform (.upload key bytes) = (.ok (), { b with blobs := Table.put key bytes b.blobs }) := by
  rw [perform, if_pos hb]

/-- The storage class is set of a blob that is there. -/
theorem perform_setClass (hb : (b.blob? key).isSome) (c : StorageClass) :
    b.perform (.setClass key c) = (.ok (), { b with classes := Table.put key c b.classes }) := by
  rw [perform, if_pos hb]

/-! ### Storing texts -/

/-- The bucket with texts stored under keys one after the other, all in one storage class. -/
def storing (c : StorageClass) : List (BlobKey × String) → MemoryBucket → MemoryBucket
  | [], b => b
  | (key, text) :: rest, b =>
    storing c rest
      { b with
        blobs := Table.put key (Bytes.ofText text) b.blobs
        classes := Table.put key c b.classes }

@[simp] theorem storing_nil (c : StorageClass) (b : MemoryBucket) : storing c [] b = b := rfl

theorem blob?_store (b : MemoryBucket) (c : StorageClass) (key k : BlobKey) (text : String) :
    { b with
      blobs := Table.put key (Bytes.ofText text) b.blobs
      classes := Table.put key c b.classes }.blob? k =
      if k = key then some (Bytes.ofText text) else b.blob? k :=
  Table.lookup_put key k _ b.blobs

theorem class?_store (b : MemoryBucket) (c : StorageClass) (key k : BlobKey) (text : String) :
    { b with
      blobs := Table.put key (Bytes.ofText text) b.blobs
      classes := Table.put key c b.classes }.class? k =
      if k = key then some c else b.class? k :=
  Table.lookup_put key k c b.classes

@[simp] theorem isThere_storing (c : StorageClass) (texts : List (BlobKey × String))
    (b : MemoryBucket) : (storing c texts b).isThere = b.isThere := by
  induction texts generalizing b with
  | nil => rfl
  | cons entry rest ih =>
    obtain ⟨key, text⟩ := entry
    rw [storing, ih]

/-- Under a key at which a text is stored, what stood there before does not matter. -/
theorem blob?_storing_congr {texts : List (BlobKey × String)}
    (h : k ∈ texts.map (·.1) ∨ b.blob? k = b'.blob? k) :
    (storing c texts b).blob? k = (storing c texts b').blob? k := by
  induction texts generalizing b b' with
  | nil => simpa using h
  | cons entry rest ih =>
    obtain ⟨key, text⟩ := entry
    simp only [storing]
    apply ih
    rw [blob?_store, blob?_store]
    -- under the first key both buckets hold the new text, whatever they held before
    by_cases hk : k = key
    · exact Or.inr (by rw [if_pos hk, if_pos hk])
    · rw [if_neg hk, if_neg hk]
      simpa [hk] using h

theorem class?_storing_congr {texts : List (BlobKey × String)}
    (h : k ∈ texts.map (·.1) ∨ b.class? k = b'.class? k) :
    (storing c texts b).class? k = (storing c texts b').class? k := by
  induction texts generalizing b b' with
  | nil => simpa using h
  | cons entry rest ih =>
    obtain ⟨key, text⟩ := entry
    simp only [storing]
    apply ih
    rw [class?_store, class?_store]
    by_cases hk : k = key
    · exact Or.inr (by rw [if_pos hk, if_pos hk])
    · rw [if_neg hk, if_neg hk]
      simpa [hk] using h

/-- Storing texts in two buckets that are alike outside their keys makes the buckets alike. -/
theorem storing_congr {texts : List (BlobKey × String)} (hthere : b.isThere = b'.isThere)
    (h : AlikeOutside (texts.map (·.1)) b b') :
    Alike (storing c texts b) (storing c texts b') where
  isThere := by rw [isThere_storing, isThere_storing, hthere]
  blob? k := blob?_storing_congr <| by
    by_cases hk : k ∈ texts.map (·.1)
    · exact Or.inl hk
    · exact Or.inr (h.blob? k hk)
  class? k := class?_storing_congr <| by
    by_cases hk : k ∈ texts.map (·.1)
    · exact Or.inl hk
    · exact Or.inr (h.class? k hk)

/-- Under other keys nothing changes. -/
theorem blob?_storing_of_notMem {texts : List (BlobKey × String)} (hk : k ∉ texts.map (·.1)) :
    (storing c texts b).blob? k = b.blob? k := by
  induction texts generalizing b with
  | nil => rfl
  | cons entry rest ih =>
    obtain ⟨key, text⟩ := entry
    simp only [List.map_cons, List.mem_cons, not_or] at hk
    rw [storing, ih hk.2, blob?_store, if_neg hk.1]

/-- Under a key that comes once its text is stored. -/
theorem blob?_storing_of_mem {texts : List (BlobKey × String)} (hnodup : (texts.map (·.1)).Nodup)
    (hmem : (key, text) ∈ texts) :
    (storing c texts b).blob? key = some (Bytes.ofText text) := by
  induction texts generalizing b with
  | nil => simp at hmem
  | cons entry rest ih =>
    obtain ⟨key', text'⟩ := entry
    rw [List.map_cons, List.nodup_cons] at hnodup
    rw [storing]
    rcases List.mem_cons.1 hmem with heq | hmem
    · -- the texts behind it have other keys
      obtain ⟨rfl, rfl⟩ := Prod.mk.inj heq
      rw [blob?_storing_of_notMem hnodup.1, blob?_store, if_pos rfl]
    · exact ih hnodup.2 hmem

end DeploySync.MemoryBucket
