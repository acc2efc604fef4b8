import DeploySync.Proofs.Sync.History
import DeploySync.Proofs.Sync.Upload

/-!
# Uploads that are run again

An upload that fails half-way leaves a bucket in which something stands under its own keys only, and
the next upload overwrites that. So however often an upload fails, and at whichever calls, one that
succeeds in the end leaves what a single one would have left, and the bucket is created once.

## Main definitions

* `Sync.Attempted` — what attempts at an upload leave of a bucket
* `Sync.Upload.attempts` — the upload, run once for each choice of failing calls

## Main results

* `Sync.run_attempted` — what a call of an attempt does, a run of them does
* `Sync.rerun_converges` — an upload that succeeds behind failed ones leaves what a single one
  leaves
-/

namespace DeploySync.Sync

open DeploySync.Plan (Asks)
open World (Faulty Shown)

variable {α : Type} {w w' : World} {b b' b'' : MemoryBucket} {t : Target} {keys : List BlobKey}
variable {calls calls' : List Shown}

/-- What attempts at an upload leave of a bucket: nothing changes under other keys, the bucket stays
once it is there, and the calls have created it if it was not there before. -/
structure Attempted (t : Target) (keys : List BlobKey) (b b' : MemoryBucket)
    (calls : List Shown) : Prop where
  alike : MemoryBucket.AlikeOutside keys b b'
  stays : b.isThere → b'.isThere
  created : creations calls =
    if b.isThere then [] else if b'.isThere then [(t.region, t.storageClass)] else []

theorem Attempted.nil (t : Target) (keys : List BlobKey) (b : MemoryBucket) :
    Attempted t keys b b [] where
  alike := .refl keys b
  stays := id
  created := by
    split_ifs <;> rfl

/-- A call that leaves the bucket alone and does not create it. -/
theorem Attempted.unchanged {q : Call} {answer : Except Error q.Answer}
    (hq : creations [⟨q, answer⟩] = []) : Attempted t keys b b [⟨q, answer⟩] where
  alike := .refl keys b
  stays := id
  created := by
    rw [hq]
    split_ifs <;> rfl

theorem Attempted.append (h : Attempted t keys b b' calls) (h' : Attempted t keys b' b'' calls') :
    Attempted t keys b b'' (calls ++ calls') where
  alike := h.alike.trans h'.alike
  stays := h'.stays ∘ h.stays
  created := by
    have hstays := h.stays
    have hstays' := h'.stays
    rw [creations_append, h.created, h'.created]
    cases hb : b.isThere <;> cases hb' : b'.isThere <;> cases hb'' : b''.isThere <;> simp_all

/-- A call of an attempt. -/
def IsAttempt (t : Target) (keys : List BlobKey) (q : Call) : Prop :=
  IsReading q ∨ IsEnsuring t q ∨ IsStoring keys q

/-- What a call that the bucket answers leaves. -/
theorem perform_attempted {c : Bucket.Call}
    (hc : IsEnsuring t (.bucket c) ∨ IsStoring keys (.bucket c)) (b : MemoryBucket) :
    Attempted t keys b (b.perform c).2 [⟨.bucket c, (b.perform c).1⟩] := by
  refine ⟨⟨fun k hk => ?_, fun k hk => ?_⟩, fun hb =>
    MemoryBucket.isThere_perform_of_isThere hb c, ?_⟩
  · rw [MemoryBucket.blob?_perform]
    cases c with
    | upload key bytes =>
      -- the only call that changes a blob, and it is one of a key of the upload
      have hkey : k ≠ key := fun h => hk (h ▸ hc.resolve_left id)
      exact (if_neg fun h => hkey h.2).symm
    | _ => rfl
  · rw [MemoryBucket.class?_perform]
    cases c with
    | setClass key c =>
      have hkey : k ≠ key := fun h => hk (h ▸ hc.resolve_left id)
      exact (if_neg fun h => hkey h.2).symm
    | _ => rfl
  · rw [MemoryBucket.isThere_perform]
    cases c with
    | createBucket location c =>
      -- the call fails if the bucket is there, and otherwise it is the one creation
      obtain ⟨rfl, rfl⟩ : location = t.region ∧ c = t.storageClass := hc.resolve_right id
      cases hb : b.isThere with
      | true =>
        rw [MemoryBucket.perform, if_pos hb]
        rfl
      | false =>
        rw [MemoryBucket.perform_createBucket hb]
        rfl
    | _ =>
      dsimp only
      split_ifs <;> rfl

/-- What a single call of an attempt leaves, whether it fails or not. -/
theorem answer_attempted (h : Faulty) {q : Call} (hq : IsAttempt t keys q) (hw : Carries w w' b) :
    ∃ b', Carries w (h.answer q w').2 b' ∧ Attempted t keys b b' [⟨q, (h.answer q w').1⟩] := by
  rcases hq with hq | hq
  · -- reading leaves the bucket alone
    refine ⟨b, (answer_reading h h hq hw hw).2, .unchanged ?_⟩
    cases q with
    | bucket c => exact hq.elim
    | _ => rfl
  · cases q with
    | bucket c =>
      rcases h.answer_bucket hw.holds c with heq | ⟨e, heq⟩
      · rw [heq]
        exact ⟨_, hw.behind c _, perform_attempted hq b⟩
      · rw [heq]
        refine ⟨b, hw.behind c b, .unchanged ?_⟩
        cases c <;> rfl
    | _ => exact (hq.elim id id).elim

/-- What calls of attempts leave one by one, a run of them leaves. -/
theorem run_attempted (h : Faulty) {p : Plan α} (hp : Asks (IsAttempt t keys) p)
    (hw : Carries w w' b) :
    ∃ b', Carries w (p.run h.answer w').2 b' ∧ Attempted t keys b b' (p.calls h.answer w') := by
  induction p generalizing w' b with
  | done result => exact ⟨b, hw, .nil t keys b⟩
  | ask q next ih =>
    obtain ⟨b₁, hw₁, hfirst⟩ := answer_attempted h hp.1 hw
    rcases hq : h.answer q w' with ⟨e | a, w₁⟩
    · rw [hq] at hw₁ hfirst
      rw [Plan.run_ask_error hq, Plan.calls_ask_error hq]
      exact ⟨b₁, hw₁, hfirst⟩
    · rw [hq] at hw₁ hfirst
      obtain ⟨b₂, hw₂, hrest⟩ := ih a (hp.2 a) hw₁
      rw [Plan.run_ask_ok hq, Plan.calls_ask_ok hq]
      exact ⟨b₂, hw₂, hfirst.append hrest⟩

namespace Upload

variable {u : Upload} {r : u.Result} {texts : List (BlobKey × String)}

theorem keysOf_map_ok (texts : List (BlobKey × String)) :
    keysOf (texts.map .ok) = texts.map (·.1) := by
  induction texts with
  | nil => rfl
  | cons entry rest ih => exact congrArg (entry.1 :: ·) ih

/-- What an upload of texts with their keys leaves of a bucket, whichever calls fail. -/
theorem plan_attempted (h : Faulty) (hw : w.Holds b)
    (hread : (w.run u.prepare).1 = .ok (texts.map .ok, r)) (hw' : Carries w w' b') :
    ∃ b'', Carries w (u.plan.run h.answer w').2 b'' ∧
      Attempted u.target (texts.map (·.1)) b' b'' (u.plan.calls h.answer w') := by
  obtain ⟨heq, -⟩ := run_reading h World.faultless u.asks_prepare hw' (Carries.refl hw)
  obtain ⟨b₁, hw₁, hfirst⟩ := run_attempted (t := u.target) h
    (u.asks_prepare.mono fun _ => Or.inl) hw'
  rcases hprepare : u.prepare.run h.answer w' with ⟨result, w₁⟩
  rw [hprepare] at heq hw₁
  obtain rfl : result = .ok (texts.map .ok, r) := heq.trans hread
  -- what was read is stored now, under the keys of the texts
  have hasks := asks_store u.target (texts.map .ok) r
  rw [keysOf_map_ok] at hasks
  obtain ⟨b₂, hw₂, hrest⟩ := run_attempted h (hasks.mono fun _ => Or.inr) hw₁
  rw [plan_eq, Plan.run_bind_ok hprepare, Plan.calls_bind_ok hprepare]
  exact ⟨b₂, hw₂, hfirst.append hrest⟩

/-- The upload, run once for each choice of failing calls. -/
def attempts (u : Upload) (failing : List Faulty) : List World.Turn :=
  failing.map fun h => ⟨h, u.Result, u.plan⟩

theorem attempts_attempted (failing : List Faulty) (hw : w.Holds b)
    (hread : (w.run u.prepare).1 = .ok (texts.map .ok, r)) (hw' : Carries w w' b') :
    ∃ b'', Carries w (World.after (u.attempts failing) w') b'' ∧
      Attempted u.target (texts.map (·.1)) b' b'' (World.shown (u.attempts failing) w') := by
  induction failing generalizing w' b' with
  | nil => exact ⟨b', hw', .nil _ _ b'⟩
  | cons h rest ih =>
    obtain ⟨b₁, hw₁, hfirst⟩ := plan_attempted h hw hread hw'
    obtain ⟨b₂, hw₂, hrest⟩ := ih hw₁
    exact ⟨b₂, hw₂, hfirst.append hrest⟩

end Upload

/-- An upload that would succeed is run any number of times while calls on the bucket fail, and then
once while none does. It succeeds then, and the bucket is as after a single upload; over all these
runs it was created once if it was not there before, and never if it was. -/
theorem rerun_converges (u : Upload) {r : u.Result} (failing : List Faulty) (hw : w.Holds b)
    (hok : (w.run u.plan).1 = .ok r) :
    let w' := World.after (u.attempts failing) w
    ∃ single again, (w.run u.plan).2.Holds single ∧
      (w'.run u.plan).1 = .ok r ∧ (w'.run u.plan).2.Holds again ∧ again.Alike single ∧
      creations (World.shown (u.attempts failing) w ++ u.plan.calls World.perform w') =
        if b.isThere then [] else [(u.target.region, u.target.storageClass)] := by
  obtain ⟨texts, hread⟩ := Upload.exists_texts hok
  obtain ⟨b₁, hw₁, hattempts⟩ := Upload.attempts_attempted failing hw hread (.refl hw)
  obtain ⟨w₂, hsingle, hw₂⟩ := Upload.run_plan hw hread (.refl hw)
  obtain ⟨w₃, hagain, hw₃⟩ := Upload.run_plan hw hread hw₁
  obtain ⟨b₃, hw₃', hlast⟩ := Upload.plan_attempted World.faultless hw hread hw₁
  -- the last run was seen twice: as an upload that succeeds, and as an attempt
  change Carries w ((World.after (u.attempts failing) w).run u.plan).2 b₃ at hw₃'
  rw [hagain] at hw₃'
  obtain rfl := hw₃'.holds.eq hw₃.holds
  have hsingle' : (w.run u.plan).2 = w₂ := by rw [hsingle]
  have hagain' : ((World.after (u.attempts failing) w).run u.plan).2 = w₃ := by rw [hagain]
  refine ⟨_, _, hsingle' ▸ hw₂.holds, by rw [hagain], hagain' ▸ hw₃.holds, ?_, ?_⟩
  · refine MemoryBucket.storing_congr rfl ⟨fun k hk => ?_, fun k hk => ?_⟩
    · exact (hattempts.alike.blob? k hk).symm
    · exact (hattempts.alike.class? k hk).symm
  · refine (hattempts.append hlast).created.trans ?_
    rw [MemoryBucket.isThere_storing, if_pos rfl]

/-- In the small world a first attempt cannot create the bucket, and a second one stores a text
without its storage class. -/
theorem rerun_converges_sample :
    let u := Upload.metadata sampleMetadata
    let failing := [Faulty.failingAt 1 (.storage (.other "down")),
      Faulty.failingAt 5 (.storage (.other "down"))]
    let w' := World.after (u.attempts failing) World.sample
    (World.sample.run u.plan).1 = .ok "dev" ∧
    ∃ single again, (World.sample.run u.plan).2.Holds single ∧
      (w'.run u.plan).1 = .ok "dev" ∧ (w'.run u.plan).2.Holds again ∧ again.Alike single ∧
      creations (World.shown (u.attempts failing) World.sample ++
        u.plan.calls World.perform w') = [("me-west1", .nearline)] := by
  have hok : (World.sample.run sampleMetadata.upload).1 = .ok "dev" := by decide +kernel
  exact ⟨hok, rerun_converges (.metadata sampleMetadata) _ World.sample_holds hok⟩

end DeploySync.Sync
