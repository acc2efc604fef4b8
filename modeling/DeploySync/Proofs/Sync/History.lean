import DeploySync.Proofs.World

/-!
# Histories of a bucket in memory

Whatever synchronizations ask for, and whichever of their calls fail, the calls with their answers
tell what became of a bucket in memory: its blobs are those that were uploaded last, and it was
created as often as it came to be there.

## Main definitions

* `Sync.Step`, `Sync.History` — what one call, and what calls one after the other make of a bucket
* `Sync.creations` — the buckets that were created
* `Sync.uploaded?`, `Sync.classified?` — what a call puts under a key
* `Sync.Spares` — the calls that leave every bucket alone

## Main results

* `Sync.history_run` — the calls of a run are a history of the bucket
* `Sync.History.blob?_eq`, `Sync.History.class?_eq` — under each key stands what was put there last
* `Sync.History.length_creations` — a bucket is created when it is missing, and then never again
* `Sync.History.eq_of_spares` — a bucket that is only asked for what it holds stays as it is
-/

namespace DeploySync.Sync

open World (Faulty Shown)

/-- What a call makes of a bucket: the bucket answers it, or the call is lost on the way and fails,
or it is not one on the bucket. -/
inductive Step : MemoryBucket → Shown → MemoryBucket → Prop
  | answered (b : MemoryBucket) (c : Bucket.Call) :
    Step b ⟨.bucket c, (b.perform c).1⟩ (b.perform c).2
  | lost (b : MemoryBucket) (c : Bucket.Call) (e : Error) : Step b ⟨.bucket c, .error e⟩ b
  | beside (b : MemoryBucket) {x : Shown} (hx : ∀ c, x.1 ≠ .bucket c) : Step b x b

/-- What calls one after the other make of a bucket. -/
inductive History : MemoryBucket → List Shown → MemoryBucket → Prop
  | nil (b : MemoryBucket) : History b [] b
  | cons {b b' b'' : MemoryBucket} {x : Shown} {calls : List Shown} (hstep : Step b x b')
    (hrest : History b' calls b'') : History b (x :: calls) b''

variable {α β : Type} {w : World} {b b' b'' : MemoryBucket} {x : Shown} {calls calls' : List Shown}

theorem Step.history (h : Step b x b') : History b [x] b' := .cons h (.nil b')

theorem History.append (h : History b calls b') (h' : History b' calls' b'') :
    History b (calls ++ calls') b'' := by
  induction h with
  | nil b => exact h'
  | cons hstep hrest ih => exact .cons hstep (ih h')

/-- What each call keeps, calls one after the other keep. -/
theorem History.invariant {I : MemoryBucket → Prop} (hI : ∀ b x b', Step b x b' → I b → I b')
    (h : History b calls b') (hb : I b) : I b' := by
  induction h with
  | nil b => exact hb
  | cons hstep hrest ih => exact ih (hI _ _ _ hstep hb)

/-! ### Runs -/

/-- Whether a call fails or not, it is a step of the bucket. -/
theorem step_answer (h : Faulty) (hw : w.Holds b) (q : Call) :
    ∃ b', (h.answer q w).2.Holds b' ∧ Step b ⟨q, (h.answer q w).1⟩ b' := by
  cases q with
  | bucket c =>
    rcases h.answer_bucket hw c with heq | ⟨e, heq⟩ <;> rw [heq]
    · exact ⟨_, hw.behind c _, .answered b c⟩
    · -- a call that fails does not reach the bucket
      exact ⟨b, hw.behind c b, .lost b c e⟩
  | output dir name =>
    refine ⟨b, ?_, .beside b nofun⟩
    rw [h.answer_output, World.perform_output]
    exact ⟨hw.holder, hw.interruptions⟩
  | readFile p =>
    refine ⟨b, ?_, .beside b nofun⟩
    rw [h.answer_readFile]
    exact hw
  | writeFile p bytes =>
    refine ⟨b, ?_, .beside b nofun⟩
    rw [h.answer_writeFile]
    rcases World.perform_writeFile p bytes w with ⟨place, name, -, heq⟩ | ⟨-, fault, heq⟩ <;>
      rw [heq]
    · exact ⟨hw.holder, hw.interruptions⟩
    · exact hw

/-- The calls of a run are a history of the bucket, whichever of them fail. -/
theorem history_run (h : Faulty) (p : Plan α) (hw : w.Holds b) :
    ∃ b', (p.run h.answer w).2.Holds b' ∧ History b (p.calls h.answer w) b' := by
  induction p generalizing w b with
  | done result => exact ⟨b, hw, .nil b⟩
  | ask q next ih =>
    obtain ⟨b₁, hw₁, hstep⟩ := step_answer h hw q
    rcases hq : h.answer q w with ⟨e | a, w₁⟩
    · rw [hq] at hw₁ hstep
      rw [Plan.run_ask_error hq, Plan.calls_ask_error hq]
      exact ⟨b₁, hw₁, hstep.history⟩
    · rw [hq] at hw₁ hstep
      obtain ⟨b₂, hw₂, hrest⟩ := ih a hw₁
      rw [Plan.run_ask_ok hq, Plan.calls_ask_ok hq]
      exact ⟨b₂, hw₂, .cons hstep hrest⟩

/-! ### What stands under a key -/

/-- The bytes that a call puts under the key. -/
def uploaded? (k : BlobKey) : Shown → Option ByteArray
  | ⟨.bucket (.upload key bytes), .ok _⟩ => if k = key then some bytes else none
  | _ => none

/-- The storage class that a call sets of the blob under the key. -/
def classified? (k : BlobKey) : Shown → Option StorageClass
  | ⟨.bucket (.setClass key c), .ok _⟩ => if k = key then some c else none
  | _ => none

theorem eq_of_uploaded? {k : BlobKey} {bytes : ByteArray} (h : uploaded? k x = some bytes) :
    x = ⟨.bucket (.upload k bytes), .ok ()⟩ := by
  rcases x with ⟨(_ | _ | _ | _ | ⟨key, bytes'⟩ | _) | _ | _ | _, _ | _⟩
  case bucket.upload.ok answer =>
    obtain ⟨rfl, hbytes⟩ := Option.ite_none_right_eq_some.1 h
    obtain rfl := Option.some.inj hbytes
    rfl
  all_goals cases h

theorem Step.blob?_eq (h : Step b x b') (k : BlobKey) :
    b'.blob? k = (uploaded? k x).or (b.blob? k) := by
  cases h with
  | answered c =>
    rw [MemoryBucket.blob?_perform]
    cases c with
    | upload key bytes =>
      dsimp only
      -- a bucket that is missing takes no blob, and the call has failed then
      by_cases hthere : b.isThere
      · rw [MemoryBucket.perform_upload hthere]
        by_cases hk : k = key <;> simp [uploaded?, hthere, hk]
      · rw [MemoryBucket.perform, if_neg hthere, if_neg fun h => hthere h.1]
        rfl
    | _ => rfl
  | lost c e => cases c <;> rfl
  | beside hx =>
    rcases x with ⟨c | _ | _ | _, answer⟩
    · exact absurd rfl (hx c)
    all_goals rfl

theorem Step.class?_eq (h : Step b x b') (k : BlobKey) :
    b'.class? k = (classified? k x).or (b.class? k) := by
  cases h with
  | answered c =>
    rw [MemoryBucket.class?_perform]
    cases c with
    | setClass key c =>
      dsimp only
      by_cases hblob : (b.blob? key).isSome
      · rw [MemoryBucket.perform_setClass hblob]
        by_cases hk : k = key <;> simp [classified?, hblob, hk]
      · rw [MemoryBucket.perform, if_neg hblob, if_neg fun h => hblob h.1]
        rfl
    | _ => rfl
  | lost c e => cases c <;> rfl
  | beside hx =>
    rcases x with ⟨c | _ | _ | _, answer⟩
    · exact absurd rfl (hx c)
    all_goals rfl

/-- If each call overwrites what can be seen of a bucket, the last one that does is seen in the
end. -/
theorem History.view_eq {view : MemoryBucket → Option β} {put? : Shown → Option β}
    (hview : ∀ b x b', Step b x b' → view b' = (put? x).or (view b)) (h : History b calls b') :
    view b' = (calls.filterMap put?).getLast?.or (view b) := by
  induction h with
  | nil b => rfl
  | @cons b b' b'' x calls hstep hrest ih =>
    rw [ih, hview _ _ _ hstep]
    cases hput : put? x with
    | none => rw [List.filterMap_cons_none hput, Option.none_or]
    | some value =>
      rw [List.filterMap_cons_some hput, List.getLast?_cons]
      cases (calls.filterMap put?).getLast? <;> rfl

/-- Under each key stand the bytes that were uploaded last. -/
theorem History.blob?_eq (h : History b calls b') (k : BlobKey) :
    b'.blob? k = (calls.filterMap (uploaded? k)).getLast?.or (b.blob? k) :=
  h.view_eq fun _ _ _ hstep => hstep.blob?_eq k

/-- Each blob has the storage class that was set last. -/
theorem History.class?_eq (h : History b calls b') (k : BlobKey) :
    b'.class? k = (calls.filterMap (classified? k)).getLast?.or (b.class? k) :=
  h.view_eq fun _ _ _ hstep => hstep.class?_eq k

/-- A key never disappears. -/
theorem History.isSome_blob? (h : History b calls b') {k : BlobKey} (hk : (b.blob? k).isSome) :
    (b'.blob? k).isSome := by
  rw [h.blob?_eq, Option.isSome_or, hk, Bool.or_true]

/-- A blob was there before, or its bytes were uploaded. -/
theorem History.blob?_eq_some (h : History b calls b') {k : BlobKey} {bytes : ByteArray}
    (hk : b'.blob? k = some bytes) :
    b.blob? k = some bytes ∨ ⟨.bucket (.upload k bytes), .ok ()⟩ ∈ calls := by
  rw [h.blob?_eq, Option.or_eq_some_iff] at hk
  rcases hk with hlast | ⟨-, hk⟩
  · obtain ⟨x, hx, hput⟩ := List.mem_filterMap.1 (List.mem_of_getLast? hlast)
    exact Or.inr (eq_of_uploaded? hput ▸ hx)
  · exact Or.inl hk

/-- Only blobs have a storage class. -/
def Classed (b : MemoryBucket) : Prop := ∀ k, (b.class? k).isSome → (b.blob? k).isSome

theorem Step.classed (h : Step b x b') (hb : Classed b) : Classed b' := by
  intro k hk
  have hblob := h.history.isSome_blob? (k := k)
  rw [h.class?_eq, Option.isSome_or] at hk
  rcases Bool.or_eq_true_iff.1 hk with hset | hk
  · -- the class was set under the key, which the bucket grants to blobs only
    cases h with
    | answered c =>
      cases c with
      | setClass key c =>
        by_cases hkey : (b.blob? key).isSome
        · rw [MemoryBucket.perform_setClass hkey] at hset
          obtain rfl : k = key := by
            by_contra hne
            simp [classified?, hne] at hset
          exact hblob hkey
        · rw [MemoryBucket.perform, if_neg hkey] at hset
          cases hset
      | _ => cases hset
    | lost c e => cases c <;> cases hset
    | beside hx =>
      rcases x with ⟨c | _ | _ | _, answer⟩
      · exact absurd rfl (hx c)
      all_goals cases hset
  · exact hblob (hb k hk)

theorem History.classed (h : History b calls b') (hb : Classed b) : Classed b' :=
  h.invariant (fun _ _ _ hstep => hstep.classed) hb

/-! ### Creations -/

/-- The buckets that were created, as they were asked for. -/
def creations (calls : List Shown) : List (String × StorageClass) :=
  calls.filterMap fun
    | ⟨.bucket (.createBucket location c), .ok _⟩ => some (location, c)
    | _ => none

theorem creations_append (calls calls' : List Shown) :
    creations (calls ++ calls') = creations calls ++ creations calls' :=
  List.filterMap_append

theorem Step.length_creations (h : Step b x b') :
    (creations [x]).length + b.isThere.toNat = b'.isThere.toNat := by
  cases h with
  | answered c =>
    rw [MemoryBucket.isThere_perform]
    cases c with
    | createBucket location c =>
      -- it succeeds exactly where the bucket is missing
      cases hb : b.isThere with
      | true =>
        rw [MemoryBucket.perform, if_pos hb]
        rfl
      | false =>
        rw [MemoryBucket.perform_createBucket hb]
        rfl
    | _ => exact Nat.zero_add _
  | lost c e => cases c <;> exact Nat.zero_add _
  | beside hx =>
    rcases x with ⟨c | _ | _ | _, answer⟩
    · exact absurd rfl (hx c)
    all_goals exact Nat.zero_add _

/-- A bucket is created when it is missing, and then never again. -/
theorem History.length_creations (h : History b calls b') :
    (creations calls).length + b.isThere.toNat = b'.isThere.toNat := by
  induction h with
  | nil b => exact Nat.zero_add _
  | @cons b b' b'' x calls hstep hrest ih =>
    have hx := hstep.length_creations
    rw [← List.singleton_append, creations_append, List.length_append]
    omega

theorem History.name_eq (h : History b calls b') : b'.name = b.name := by
  refine h.invariant (I := fun b' => b'.name = b.name) ?_ rfl
  intro b₁ x b₂ hstep hname
  cases hstep with
  | answered c => cases c <;> simp only [MemoryBucket.perform] <;> (try split) <;> exact hname
  | _ => exact hname

/-- A bucket that is there stays. -/
theorem History.isThere (h : History b calls b') (hb : b.isThere) : b'.isThere := by
  refine h.invariant (I := fun b => b.isThere) ?_ hb
  intro b x b' hstep hthere
  cases hstep with
  | answered c => exact MemoryBucket.isThere_perform_of_isThere hthere c
  | lost c e => exact hthere
  | beside hx => exact hthere

/-! ### Calls that change nothing -/

/-- A call that leaves every bucket alone. -/
def Spares : Call → Prop
  | .bucket c => c.isWrite = false
  | _ => True

theorem creations_of_spares (hcalls : ∀ x ∈ calls, Spares x.1) : creations calls = [] := by
  refine List.filterMap_eq_nil_iff.2 fun x hx => ?_
  rcases x with ⟨(_ | _ | _ | _ | _ | _) | _ | _ | _, answer⟩
  case bucket.createBucket => cases hcalls _ hx
  all_goals rfl

theorem Step.eq_of_spares (h : Step b x b') (hx : Spares x.1) : b' = b := by
  cases h with
  | answered c =>
    cases c with
    | download key =>
      rw [MemoryBucket.perform]
      split <;> rfl
    | bucketExists => rfl
    | blobExists key => rfl
    | _ => cases hx
  | lost c e => rfl
  | beside hx => rfl

/-- A bucket that is only asked for what it holds stays as it is. -/
theorem History.eq_of_spares (h : History b calls b') (hcalls : ∀ x ∈ calls, Spares x.1) :
    b' = b := by
  induction h with
  | nil b => rfl
  | @cons b b' b'' x calls hstep hrest ih =>
    rw [ih fun y hy => hcalls y (List.mem_cons_of_mem _ hy)]
    exact hstep.eq_of_spares (hcalls x List.mem_cons_self)

end DeploySync.Sync
