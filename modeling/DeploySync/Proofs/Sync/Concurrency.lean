import DeploySync.Proofs.Sync.Processes
import DeploySync.Proofs.Sync.Protocol

/-!
# Uploads side by side

Uploads that share a bucket ask whether it is there before they create it, so that several of them
can find it missing. One of these creates it, and the others are refused before they have uploaded
anything. Whatever the order of the calls, nothing else goes wrong.

## Main definitions

* `Sync.Upload.storing` — what is left of an upload once the bucket is there
* `Sync.Stage` — how far an upload has come, and what it relies on in the bucket
* `Sync.Advance` — what the next call of an upload does
* `Sync.Underway` — uploads that have come some way side by side
* `Sync.SideBySide` — what uploads leave that ran side by side

## Main results

* `Sync.Stage.later` — what another process does to the bucket does not throw an upload back
* `Sync.Stage.advance` — each call of an upload advances it
* `Sync.Stage.result` — how an upload can end
* `Sync.Underway.turn` — uploads under way stay so
* `Sync.uploads_concurrently` — what uploads side by side do
-/

namespace DeploySync.Sync

open DeploySync.Plan (done Asks)
open World (Shown)

variable {ι : Type} {w v : World} {b₀ b b' : MemoryBucket} {calls : List Shown} {x : Shown}

namespace Upload

/-- What is left of an upload once the bucket is there. -/
def storing (u : Upload) (texts : List (BlobKey × String)) (r : u.Result) : Plan u.Result :=
  (publish u.target.storageClass (texts.map .ok)).bind fun _ => done (.ok r)

/-- What is left of an upload once it has asked whether the bucket is there. -/
def ensuring (u : Upload) (texts : List (BlobKey × String)) (r : u.Result) (isThere : Bool) :
    Plan u.Result :=
  (createUnless u.target isThere).bind fun _ => u.storing texts r

/-- The calls on the bucket of an upload that finds it missing and is refused it then. -/
def refusal (u : Upload) (name : String) : List Shown :=
  [⟨.bucket .bucketExists, .ok false⟩,
    ⟨.bucket (.createBucket u.target.region u.target.storageClass),
      .error (.storage (.bucketExists name))⟩]

theorem store_eq (u : Upload) (texts : List (BlobKey × String)) (r : u.Result) :
    store u.target (texts.map .ok) r = .ask (.bucket .bucketExists) (u.ensuring texts r) := by
  rw [store, ensureBucket_eq]
  rfl

theorem storing_cons (u : Upload) (key : BlobKey) (text : String)
    (rest : List (BlobKey × String)) (r : u.Result) :
    u.storing ((key, text) :: rest) r = .ask (.bucket (.upload key (Bytes.ofText text))) fun _ =>
      .ask (.bucket (.setClass key u.target.storageClass)) fun _ => u.storing rest r := rfl

theorem creation_mem_refusal (u : Upload) (name : String) :
    ⟨.bucket (.createBucket u.target.region u.target.storageClass),
      .error (.storage (.bucketExists name))⟩ ∈ u.refusal name :=
  List.mem_cons_of_mem _ List.mem_cons_self

/-- An upload that is refused the bucket has made no other call on it, and has not created it. -/
theorem of_mem_refusal {u : Upload} {name : String} {c : Bucket.Call}
    {answer : Except Error c.Answer} (hmem : ⟨.bucket c, answer⟩ ∈ u.refusal name) :
    c = .bucketExists ∨
      c = .createBucket u.target.region u.target.storageClass ∧ answer.isOk = false := by
  rcases List.mem_cons.1 hmem with heq | hmem
  · cases heq
    exact Or.inl rfl
  · cases List.mem_singleton.1 hmem
    exact Or.inr ⟨rfl, rfl⟩

end Upload

/-! ### Stages of an upload -/

/-- How far an upload of texts has come that started in a world with a bucket: what is left of its
plan, the calls on the bucket that it has made, and what it relies on in the bucket of now. -/
inductive Stage (u : Upload) (texts : List (BlobKey × String)) (r : u.Result) (v : World)
    (b₀ b : MemoryBucket) : Plan u.Result → List Shown → Prop
  | reading {p : Plan (List Draft × u.Result)} (hp : Asks IsReading p)
    (hread : (v.run p).1 = .ok (texts.map .ok, r)) :
    Stage u texts r v b₀ b (p.bind fun read => store u.target read.1 read.2) []
  | creating (hmissing : b₀.isThere = false) :
    Stage u texts r v b₀ b (u.ensuring texts r false) [⟨.bucket .bucketExists, .ok false⟩]
  | storing {rest : List (BlobKey × String)} {own : List Shown} (hthere : b.isThere)
    (hown : ∀ x ∈ own, x.2.isOk) : Stage u texts r v b₀ b (u.storing rest r) own
  | classing {key : BlobKey} {rest : List (BlobKey × String)} {own : List Shown}
    (hthere : b.isThere) (hblob : (b.blob? key).isSome) (hown : ∀ x ∈ own, x.2.isOk) :
    Stage u texts r v b₀ b
      (.ask (.bucket (.setClass key u.target.storageClass)) fun _ => u.storing rest r) own
  | refused (hthere : b.isThere) (hmissing : b₀.isThere = false) :
    Stage u texts r v b₀ b (done (.error (.storage (.bucketExists b₀.name))))
      (u.refusal b₀.name)

section Stage

variable {u : Upload} {texts : List (BlobKey × String)} {r : u.Result} {plan : Plan u.Result}
variable {own : List Shown}

/-- What another process does to the bucket does not throw the upload back: the bucket stays, and so
does every blob. -/
theorem Stage.later (h : Stage u texts r v b₀ b plan own) (hstep : Step b x b') :
    Stage u texts r v b₀ b' plan own := by
  cases h with
  | reading hp hread => exact .reading hp hread
  | creating hmissing => exact .creating hmissing
  | storing hthere hown => exact .storing (hstep.history.isThere hthere) hown
  | classing hthere hblob hown =>
    exact .classing (hstep.history.isThere hthere) (hstep.history.isSome_blob? hblob) hown
  | refused hthere hmissing => exact .refused (hstep.history.isThere hthere) hmissing

/-- Where the same can be read as in the world of the start, the next thing that is read is there,
and reading goes on to the same end. -/
theorem perform_reading {α : Type} {q : Call} {next : q.Answer → Plan α} {a : α}
    (hp : Asks IsReading (.ask q next)) (hread : (v.run (.ask q next)).1 = .ok a)
    (hv : v.Holds b₀) (hw : Carries v w b) :
    ∃ answer w', World.perform q w = (.ok answer, w') ∧ Carries v w' b ∧
      Asks IsReading (next answer) ∧ (v.run (next answer)).1 = .ok a := by
  obtain ⟨heq, hcarries⟩ :=
    answer_reading World.faultless World.faultless hp.1 hw (Carries.refl hv)
  have hcarries' := (answer_reading World.faultless World.faultless hp.1 (Carries.refl hv) hw).2
  change (World.perform q w).1 = (World.perform q v).1 at heq
  change Carries v (World.perform q w).2 b at hcarries
  change Carries v (World.perform q v).2 b₀ at hcarries'
  rcases hperform : World.perform q v with ⟨e | answer, v'⟩
  · rw [World.run, Plan.run_ask_error hperform] at hread
    cases hread
  · rw [hperform] at heq hcarries'
    rw [World.run, Plan.run_ask_ok hperform] at hread
    refine ⟨answer, (World.perform q w).2, Prod.ext heq rfl, hcarries, hp.2 answer, ?_⟩
    -- the rest is read alike in the world of the start and in the one behind the call
    exact (run_reading World.faultless World.faultless (hp.2 answer) (Carries.refl hv)
      hcarries').1.trans hread

/-- What the next call of an upload does, and how the upload stands behind it. -/
structure Advance (u : Upload) (texts : List (BlobKey × String)) (r : u.Result) (v w : World)
    (b₀ b : MemoryBucket) (own : List Shown) (q : Call) (next : q.Answer → Plan u.Result)
    (b' : MemoryBucket) : Prop where
  carries : Carries v (World.perform q w).2 b'
  step : Step b ⟨q, (World.perform q w).1⟩ b'
  stage : Stage u texts r v b₀ b' (Plan.resume next (World.perform q w).1)
    (own ++ if q.isOnBucket then [⟨q, (World.perform q w).1⟩] else [])
  created : ∀ location c, q = .bucket (.createBucket location c) → b₀.isThere = false
  failed : ∀ e, (World.perform q w).1 = .error e →
    ∃ location c, q = .bucket (.createBucket location c)

/-- A call that reads advances an upload, and leaves the bucket alone. -/
theorem advance_reading {q : Call} {next : q.Answer → Plan (List Draft × u.Result)}
    (hp : Asks IsReading (.ask q next)) (hread : (v.run (.ask q next)).1 = .ok (texts.map .ok, r))
    (hv : v.Holds b₀) (hw : Carries v w b) :
    Advance u texts r v w b₀ b [] q
      (fun answer => (next answer).bind fun read => store u.target read.1 read.2) b := by
  obtain ⟨answer, w', hperform, hcarries, hnext, hrest⟩ := perform_reading hp hread hv hw
  -- no call that reads is one on the bucket
  have hbeside : q.isOnBucket = false ∧ ∀ c, q ≠ .bucket c := by
    cases q with
    | bucket c => exact hp.1.elim
    | _ => exact ⟨rfl, nofun⟩
  refine ⟨?_, ?_, ?_, ?_, ?_⟩
  · rwa [hperform]
  · exact .beside b hbeside.2
  · rw [hperform, hbeside.1]
    exact .reading hnext hrest
  · exact fun location c hq => absurd hq (hbeside.2 _)
  · intro e he
    rw [hperform] at he
    cases he

theorem isOk_append (hown : ∀ x ∈ own, x.2.isOk) (hx : x.2.isOk) : ∀ y ∈ own ++ [x], y.2.isOk :=
  List.forall_mem_append.2 ⟨hown, List.forall_mem_singleton.2 hx⟩

/-- A call on the bucket advances an upload if the upload stands well behind what the bucket
answers. -/
theorem advance_bucket {c : Bucket.Call} {next : (Call.bucket c).Answer → Plan u.Result}
    {answer : Except Error (Call.bucket c).Answer} (hw : Carries v w b)
    (hperform : b.perform c = (answer, b'))
    (hstage : Stage u texts r v b₀ b' (Plan.resume next answer) (own ++ [⟨.bucket c, answer⟩]))
    (hcreated : ∀ location storageClass, c = .createBucket location storageClass →
      b₀.isThere = false)
    (hfailed : ∀ e, answer = .error e →
      ∃ location storageClass, c = .createBucket location storageClass) :
    Advance u texts r v w b₀ b own (.bucket c) next b' := by
  have heq : World.perform (.bucket c) w = (answer, w.behind c b') := by
    rw [World.perform_bucket hw.holds, hperform]
    rfl
  have hstep := Step.answered b c
  rw [hperform] at hstep
  refine ⟨?_, ?_, ?_, ?_, ?_⟩
  · rw [heq]
    exact hw.behind c b'
  · rw [heq]
    exact hstep
  · rw [heq]
    exact hstage
  · intro location storageClass hc
    exact hcreated location storageClass (Call.bucket.inj hc)
  · intro e he
    rw [heq] at he
    obtain ⟨location, storageClass, rfl⟩ := hfailed e he
    exact ⟨location, storageClass, rfl⟩

/-- An upload that has been told that the bucket is missing creates it, or is refused the bucket
that another one has created in the meantime. -/
theorem advance_creating (hhistory : History b₀ calls b) (hw : Carries v w b)
    (hmissing : b₀.isThere = false) :
    ∃ q next b', u.ensuring texts r false = .ask q next ∧
      Advance u texts r v w b₀ b [⟨.bucket .bucketExists, .ok false⟩] q next b' := by
  cases hthere : b.isThere with
  | false =>
    refine ⟨_, _, _, rfl, advance_bucket hw (MemoryBucket.perform_createBucket hthere _ _) ?_
      (fun _ _ _ => hmissing) nofun⟩
    exact .storing rfl (isOk_append (List.forall_mem_singleton.2 rfl) rfl)
  | true =>
    have hrefused : b.perform (.createBucket u.target.region u.target.storageClass) =
        (.error (.storage (.bucketExists b₀.name)), b) := by
      rw [MemoryBucket.perform, if_pos hthere, hhistory.name_eq]
    refine ⟨_, _, b, rfl, advance_bucket hw hrefused ?_ (fun _ _ _ => hmissing)
      fun _ _ => ⟨_, _, rfl⟩⟩
    exact .refused hthere hmissing

/-- An upload goes on until it is done, and each of its calls advances it. -/
theorem Stage.advance (h : Stage u texts r v b₀ b plan own) (hv : v.Holds b₀)
    (hhistory : History b₀ calls b) (hw : Carries v w b) :
    (∃ result, plan = done result) ∨
      ∃ q next b', plan = .ask q next ∧ Advance u texts r v w b₀ b own q next b' := by
  cases h with
  | @reading p hp hread =>
    cases p with
    | done result =>
      -- everything is read, and the bucket is asked for
      obtain rfl : result = .ok (texts.map .ok, r) := hread
      refine Or.inr ⟨_, _, b, u.store_eq texts r, advance_bucket hw rfl ?_ nofun nofun⟩
      rcases hthere : b.isThere with - | -
      · -- a bucket that is missing now was missing from the start
        refine .creating ?_
        by_contra hne
        rw [hhistory.isThere (by simpa using hne)] at hthere
        cases hthere
      · exact .storing hthere (isOk_append (List.forall_mem_nil _) rfl)
    | ask q next => exact Or.inr ⟨q, _, b, rfl, advance_reading hp hread hv hw⟩
  | creating hmissing => exact Or.inr (advance_creating hhistory hw hmissing)
  | @storing rest own hthere hown =>
    cases rest with
    | nil => exact Or.inl ⟨_, rfl⟩
    | cons entry rest =>
      -- the blob is there once its bytes are uploaded, so that its class can be set
      obtain ⟨key, text⟩ := entry
      refine Or.inr ⟨_, _, _, u.storing_cons key text rest r,
        advance_bucket hw (MemoryBucket.perform_upload hthere _ _) ?_ nofun nofun⟩
      refine .classing hthere ?_ (isOk_append hown rfl)
      rw [MemoryBucket.blob?_put, if_pos rfl]
      rfl
  | classing hthere hblob hown =>
    refine Or.inr ⟨_, _, _, rfl,
      advance_bucket hw (MemoryBucket.perform_setClass hblob _) ?_ nofun nofun⟩
    exact .storing hthere (isOk_append hown rfl)
  | refused hthere hmissing => exact Or.inl ⟨_, rfl⟩

/-- An upload that is done has ended well, or it was refused the bucket after its first two calls on
it; the bucket is there then. -/
theorem Stage.result (h : Stage u texts r v b₀ b plan own) {result : Except Error u.Result}
    (hplan : plan = done result) :
    b.isThere ∧ (result = .ok r ∧ (∀ x ∈ own, x.2.isOk) ∨
      b₀.isThere = false ∧ result = .error (.storage (.bucketExists b₀.name)) ∧
        own = u.refusal b₀.name) := by
  cases h with
  | @reading p hp hread =>
    -- behind what is read the question for the bucket is left to ask
    cases p with
    | done read =>
      obtain rfl : read = .ok (texts.map .ok, r) := hread
      cases (u.store_eq texts r).symm.trans hplan
    | ask q next => cases hplan
  | creating hmissing => cases hplan
  | @storing rest own hthere hown =>
    cases rest with
    | nil =>
      cases hplan
      exact ⟨hthere, Or.inl ⟨rfl, hown⟩⟩
    | cons entry rest => cases hplan
  | classing hthere hblob hown => cases hplan
  | refused hthere hmissing =>
    cases hplan
    exact ⟨hthere, Or.inr ⟨hmissing, rfl, rfl⟩⟩

end Stage

/-! ### Uploads under way -/

section Underway

variable [DecidableEq ι] {u : ι → Upload} {texts : ι → List (BlobKey × String)}
variable {r : (i : ι) → (u i).Result} {ws : ι → World} {s : Processes ι fun i => (u i).Result}
variable {trace : List (ι × Shown)} {i : ι}

theorem Carries.sharing {w' : World} (hw : Carries v w b) (hw' : w'.Holds b') :
    Carries v (w.sharing w') b' :=
  ⟨⟨hw'.holder, hw.holds.interruptions⟩, hw.files, hw.outputs⟩

/-- Uploads that have come some way side by side. -/
structure Underway (u : ι → Upload) (texts : ι → List (BlobKey × String))
    (r : (i : ι) → (u i).Result) (ws : ι → World) (b₀ : MemoryBucket)
    (s : Processes ι fun i => (u i).Result) (trace : List (ι × Shown)) (b : MemoryBucket) :
    Prop where
  carries : ∀ i, Carries (ws i) (s.worlds i) b
  history : History b₀ (trace.map Prod.snd) b
  stage : ∀ i, Stage (u i) (texts i) (r i) (ws i) b₀ b (s.rest i) (bucketCalls i trace)
  created : ∀ i location c answer, (i, ⟨.bucket (.createBucket location c), answer⟩) ∈ trace →
    b₀.isThere = false
  failed : ∀ i q e, (i, ⟨q, .error e⟩) ∈ trace →
    ∃ location c, q = .bucket (.createBucket location c)

/-- Uploads under way stay so, whichever of them has the next turn. -/
theorem Underway.turn (h : Underway u texts r ws b₀ s trace b) (hws : ∀ i, (ws i).Holds b₀)
    (i : ι) : ∃ b', Underway u texts r ws b₀ (s.turn i).1 (trace ++ (s.turn i).2) b' := by
  rcases (h.stage i).advance (hws i) h.history (h.carries i) with
    ⟨result, hrest⟩ | ⟨q, next, b', hrest, hadvance⟩
  · rw [Processes.turn_done hrest, List.append_nil]
    exact ⟨b, h⟩
  · refine ⟨b', ⟨?carries, ?history, ?stage, ?created, ?failed⟩⟩
    case carries =>
      -- the files and the outputs of the others stay their own
      intro j
      rw [Processes.turn_ask hrest]
      dsimp only
      by_cases hj : j = i
      · subst hj
        rw [if_pos rfl]
        exact hadvance.carries
      · rw [if_neg hj]
        exact (h.carries j).sharing hadvance.carries.holds
    case history =>
      rw [Processes.turn_ask hrest, List.map_append]
      exact h.history.append hadvance.step.history
    case stage =>
      -- the call is one of this upload only, and throws no other one back
      intro j
      by_cases hj : j = i
      · subst hj
        rw [Processes.rest_turn hrest, Processes.turn_ask hrest, bucketCalls_append,
          bucketCalls_self]
        exact hadvance.stage
      · rw [Processes.rest_turn_of_ne hj, Processes.turn_ask hrest, bucketCalls_append,
          bucketCalls_of_ne (Ne.symm hj), List.append_nil]
        exact (h.stage j).later hadvance.step
    case created =>
      intro j location c answer hmem
      rw [Processes.turn_ask hrest] at hmem
      rcases List.mem_append.1 hmem with hmem | hmem
      · exact h.created j location c answer hmem
      · obtain ⟨-, hx⟩ := Prod.mk.inj (List.mem_singleton.1 hmem)
        exact hadvance.created location c (Sigma.mk.inj hx).1.symm
    case failed =>
      intro j q' e hmem
      rw [Processes.turn_ask hrest] at hmem
      rcases List.mem_append.1 hmem with hmem | hmem
      · exact h.failed j q' e hmem
      · obtain ⟨-, hx⟩ := Prod.mk.inj (List.mem_singleton.1 hmem)
        obtain ⟨rfl, he⟩ := Sigma.mk.inj hx
        exact hadvance.failed e (eq_of_heq he).symm

/-- Uploads that have not begun are under way. -/
theorem underway_start (hws : ∀ i, (ws i).Holds b₀)
    (hread : ∀ i, ((ws i).run (u i).prepare).1 = .ok ((texts i).map .ok, r i)) :
    Underway u texts r ws b₀ ⟨ws, fun i => (u i).plan⟩ [] b₀ where
  carries i := .refl (hws i)
  history := .nil b₀
  stage i := by
    dsimp only
    rw [(u i).plan_eq]
    exact .reading (u i).asks_prepare (hread i)
  created _ _ _ _ hmem := absurd hmem List.not_mem_nil
  failed _ _ _ hmem := absurd hmem List.not_mem_nil

/-- Uploads of texts are under way from the start to the end of every schedule. -/
theorem underway_run (hws : ∀ i, (ws i).Holds b₀)
    (hread : ∀ i, ((ws i).run (u i).prepare).1 = .ok ((texts i).map .ok, r i)) (schedule : List ι) :
    ∃ b, Underway u texts r ws b₀ (Processes.run schedule ⟨ws, fun i => (u i).plan⟩).1
      (Processes.run schedule ⟨ws, fun i => (u i).plan⟩).2 b := by
  have hturn (s : Processes ι fun i => (u i).Result) (trace : List (ι × Shown)) (i : ι)
      (h : ∃ b, Underway u texts r ws b₀ s trace b) :
      ∃ b, Underway u texts r ws b₀ (s.turn i).1 (trace ++ (s.turn i).2) b := by
    obtain ⟨b, h⟩ := h
    exact h.turn hws i
  have hrun := Processes.run_invariant hturn schedule ⟨b₀, underway_start hws hread⟩
  rwa [List.nil_append] at hrun

end Underway

/-! ### How many calls an upload makes -/

theorem within_ensureBucket (t : Target) : (ensureBucket t).Within 2 := by
  rw [ensureBucket_eq]
  intro isThere
  change Bool at isThere
  cases isThere with
  | true => trivial
  | false => exact fun _ => trivial

theorem within_publish (c : StorageClass) (drafts : List Draft) :
    (publish c drafts).Within (2 * drafts.length) := by
  induction drafts with
  | nil => trivial
  | cons d rest ih =>
    cases d with
    | error e => trivial
    | ok entry => exact fun _ _ => ih

theorem within_store {α : Type} (t : Target) (drafts : List Draft) (a : α) :
    (store t drafts a).Within (2 + 2 * drafts.length) :=
  (within_ensureBucket t).bind fun _ => (within_publish t.storageClass drafts).bind (n := 0)
    fun _ => trivial

/-- An upload reads its file and two outputs, asks for the bucket and creates it, and makes two
calls for each of two texts. -/
theorem within_plan (u : Upload) : u.plan.Within 9 := by
  cases u with
  | commonVars s =>
    have hplan : s.upload.Within 5 := by
      rw [upload_commonVars_eq]
      refine Plan.Within.bind (m := 1) (n := 4) (fun _ => trivial) fun text => ?_
      refine Plan.Within.bind (m := 0) (n := 4) trivial fun d => ?_
      exact within_store _ _ _
    exact hplan.mono (by omega)
  | metadata s =>
    change s.upload.Within 9
    rw [upload_metadata_eq]
    refine Plan.Within.bind (m := 1) (n := 8) (fun _ => trivial) fun text => ?_
    refine Plan.Within.bind (m := 0) (n := 8) trivial fun d => ?_
    refine Plan.Within.bind (m := 0) (n := 8) trivial fun workspace => ?_
    refine Plan.Within.bind (m := 2) (n := 6) ?_ fun m => within_store _ _ _
    rw [collect_eq]
    refine Plan.Within.bind (m := 1) (n := 1) (fun _ => trivial) fun nodesText => ?_
    refine Plan.Within.bind (m := 0) (n := 1) trivial fun nodes => ?_
    exact fun _ => trivial

/-! ### What uploads side by side do -/

/-- Someone created the bucket. -/
theorem exists_of_creations {trace : List (ι × Shown)}
    (h : creations (trace.map Prod.snd) ≠ []) :
    ∃ i location c, (i, ⟨.bucket (.createBucket location c), .ok ()⟩) ∈ trace := by
  obtain ⟨⟨location, c⟩, hmem⟩ := List.exists_mem_of_ne_nil _ h
  obtain ⟨x, hx, hcreated⟩ := List.mem_filterMap.1 hmem
  obtain ⟨⟨i, y⟩, hy, rfl⟩ := List.mem_map.1 hx
  rcases y with ⟨(_ | ⟨location', c'⟩ | _ | _ | _ | _) | _ | _ | _, _ | _⟩
  case bucket.createBucket.ok => exact ⟨i, location', c', hy⟩
  all_goals cases hcreated

section SideBySide

variable [DecidableEq ι] {u : ι → Upload} {texts : ι → List (BlobKey × String)}
variable {r : (i : ι) → (u i).Result} {ws : ι → World} {s : Processes ι fun i => (u i).Result}
variable {trace : List (ι × Shown)} {i : ι}

/-- What uploads leave that ran side by side on a bucket. -/
structure SideBySide (u : ι → Upload) (ws : ι → World) (b₀ : MemoryBucket)
    (s : Processes ι fun i => (u i).Result) (trace : List (ι × Shown)) (b : MemoryBucket) :
    Prop where
  /-- All find the same bucket in the end. -/
  holds : ∀ i, (s.worlds i).Holds b
  /-- A bucket that was missing was created once, -/
  created : (creations (trace.map Prod.snd)).length = if b₀.isThere then 0 else 1
  /-- and where it was there, no one tried. -/
  spared : b₀.isThere → ∀ i location c answer,
    (i, ⟨.bucket (.createBucket location c), answer⟩) ∉ trace
  /-- Each upload has ended as it does alone, or its own creation of the bucket was refused, and it
  has uploaded nothing. -/
  ended : ∀ i, (∃ r, s.rest i = done (.ok r) ∧ ((ws i).run (u i).plan).1 = .ok r) ∨
    s.rest i = done (.error (.storage (.bucketExists b₀.name))) ∧
      (∃ location c, (i, ⟨.bucket (.createBucket location c),
        .error (.storage (.bucketExists b₀.name))⟩) ∈ trace) ∧
      ∀ key bytes answer, (i, ⟨.bucket (.upload key bytes), answer⟩) ∉ trace
  /-- One of them at least has ended well. -/
  exists_ok : ∃ i r, s.rest i = done (.ok r)
  /-- No other call has failed. -/
  failed : ∀ i q e, (i, ⟨q, .error e⟩) ∈ trace →
    ∃ location c, q = .bucket (.createBucket location c)
  /-- Under each key stand the bytes that were uploaded last, -/
  blob : ∀ k, b.blob? k =
    ((trace.map Prod.snd).filterMap (uploaded? k)).getLast?.or (b₀.blob? k)
  /-- with the storage class that was set last, -/
  storageClass : ∀ k, b.class? k =
    ((trace.map Prod.snd).filterMap (classified? k)).getLast?.or (b₀.class? k)
  /-- and no key has disappeared. -/
  kept : ∀ k, (b₀.blob? k).isSome → (b.blob? k).isSome

/-- An upload under way that is done has ended well, or it was refused the bucket. -/
theorem Underway.ended (h : Underway u texts r ws b₀ s trace b) (hdone : (s.rest i).isDone) :
    b.isThere ∧ (s.rest i = done (.ok (r i)) ∧ (∀ x ∈ bucketCalls i trace, x.2.isOk) ∨
      b₀.isThere = false ∧ s.rest i = done (.error (.storage (.bucketExists b₀.name))) ∧
        bucketCalls i trace = (u i).refusal b₀.name) := by
  cases hplan : s.rest i with
  | done result =>
    obtain ⟨hthere, hend⟩ := (h.stage i).result hplan
    refine ⟨hthere, hend.imp (fun hok => ?_) fun hrefused => ?_⟩
    · exact ⟨congrArg done hok.1, hok.2⟩
    · exact ⟨hrefused.1, congrArg done hrefused.2.1, hrefused.2.2⟩
  | ask q next =>
    rw [hplan] at hdone
    cases hdone

/-- If all uploads are done, one of them has ended well: the one that created the bucket, if it was
missing. -/
theorem Underway.exists_ok [Nonempty ι] (h : Underway u texts r ws b₀ s trace b)
    (hdone : ∀ i, (s.rest i).isDone) : ∃ i, s.rest i = done (.ok (r i)) := by
  obtain ⟨i₀⟩ := ‹Nonempty ι›
  obtain ⟨hthere, hend⟩ := h.ended (hdone i₀)
  rcases hend with ⟨hok, -⟩ | ⟨hmissing, -⟩
  · exact ⟨i₀, hok⟩
  · -- this one was refused the bucket, so that another one has created it
    have hcount := h.history.length_creations
    rw [hthere, hmissing] at hcount
    have hcreations : creations (trace.map Prod.snd) ≠ [] := by
      intro hnil
      rw [hnil] at hcount
      cases hcount
    obtain ⟨i, location, c, hmem⟩ := exists_of_creations hcreations
    rcases (h.ended (hdone i)).2 with ⟨hok, -⟩ | ⟨-, -, hcalls⟩
    · exact ⟨i, hok⟩
    · -- one that is refused the bucket has not created it
      replace hmem := mem_bucketCalls.2 hmem
      rw [hcalls] at hmem
      rcases Upload.of_mem_refusal hmem with hc | ⟨-, hfailed⟩
      · cases hc
      · cases hfailed

theorem Underway.sideBySide [Nonempty ι] (h : Underway u texts r ws b₀ s trace b)
    (hrun : ∀ i, ((ws i).run (u i).plan).1 = .ok (r i)) (hdone : ∀ i, (s.rest i).isDone) :
    SideBySide u ws b₀ s trace b where
  holds i := (h.carries i).holds
  created := by
    obtain ⟨i⟩ := ‹Nonempty ι›
    have hcount := h.history.length_creations
    rw [(h.ended (hdone i)).1] at hcount
    cases hthere : b₀.isThere <;> rw [hthere] at hcount
    · exact hcount
    · exact Nat.succ.inj hcount
  spared hthere i location c answer hmem := by
    rw [h.created i location c answer hmem] at hthere
    cases hthere
  ended i := by
    rcases (h.ended (hdone i)).2 with ⟨hok, -⟩ | ⟨-, hrefused, hcalls⟩
    · exact Or.inl ⟨r i, hok, hrun i⟩
    · -- a refused upload made no call behind its creation of the bucket
      refine Or.inr ⟨hrefused, ?_, ?_⟩
      · have hmem := (u i).creation_mem_refusal b₀.name
        rw [← hcalls] at hmem
        exact ⟨_, _, mem_bucketCalls.1 hmem⟩
      · intro key bytes answer hmem
        replace hmem := mem_bucketCalls.2 hmem
        rw [hcalls] at hmem
        rcases Upload.of_mem_refusal hmem with hc | ⟨hc, -⟩ <;> cases hc
  exists_ok := by
    obtain ⟨i, hok⟩ := h.exists_ok hdone
    exact ⟨i, r i, hok⟩
  failed := h.failed
  blob := h.history.blob?_eq
  storageClass := h.history.class?_eq
  kept _ hk := h.history.isSome_blob? hk

/-- Uploads that share a bucket, each of which would succeed alone, whatever the order of their
calls. Nine turns are enough for each of them, and once all are done, the bucket was created exactly
if it was missing, each upload has succeeded or was refused the bucket that another one created
before it, and one of them at least has succeeded; the bucket holds what was stored last. -/
theorem uploads_concurrently [Nonempty ι] (hws : ∀ i, (ws i).Holds b₀)
    (hok : ∀ i, ((ws i).run (u i).plan).1.isOk) (schedule : List ι) :
    let ended := Processes.run schedule ⟨ws, fun i => (u i).plan⟩
    ((∀ i, 9 ≤ schedule.count i) → ∀ i, (ended.1.rest i).isDone) ∧
      ((∀ i, (ended.1.rest i).isDone) → ∃ b, SideBySide u ws b₀ ended.1 ended.2 b) := by
  intro ended
  refine ⟨fun hturns i => Processes.isDone_run (within_plan (u i)) (hturns i), fun hdone => ?_⟩
  -- each of them reads the texts that it would upload alone
  have hreads (i : ι) : ∃ texts r, ((ws i).run (u i).plan).1 = .ok r ∧
      ((ws i).run (u i).prepare).1 = .ok (List.map .ok texts, r) := by
    cases hresult : ((ws i).run (u i).plan).1 with
    | error e =>
      have hok := hok i
      rw [hresult] at hok
      cases hok
    | ok r =>
      obtain ⟨texts, hread⟩ := Upload.exists_texts hresult
      exact ⟨texts, r, rfl, hread⟩
  choose texts r hrun hread using hreads
  obtain ⟨b, h⟩ := underway_run hws hread schedule
  exact ⟨b, h.sideBySide hrun hdone⟩

end SideBySide

/-- The uploads of the common settings and of the metadata in the small world. -/
def sampleUpload : Fin 2 → Upload
  | 0 => .commonVars sampleCommonVars
  | 1 => .metadata sampleMetadata

/-- The upload of the metadata finds the bucket missing, that of the common settings creates it and
goes on to its end, and then the upload of the metadata is refused the bucket. -/
def sampleSchedule : List (Fin 2) := List.replicate 4 1 ++ List.replicate 9 0 ++ List.replicate 5 1

theorem isOk_run_sampleUpload : ∀ i, (World.sample.run (sampleUpload i).plan).1.isOk := by
  decide +kernel

/-- The two uploads side by side. -/
def sampleRun : Processes (Fin 2) (fun i => (sampleUpload i).Result) × List (Fin 2 × Shown) :=
  Processes.run sampleSchedule ⟨fun _ => World.sample, fun i => (sampleUpload i).plan⟩

theorem refused_sampleRun : sampleRun.2.any fun x => x.1 = 1 && !x.2.2.isOk := by
  decide +kernel

theorem uploads_concurrently_sample :
    World.sample.Holds { name := "vars" } ∧
      (∀ i, (World.sample.run (sampleUpload i).plan).1.isOk) ∧
      (∀ i, (sampleRun.1.rest i).isDone) ∧
      (∃ b, SideBySide sampleUpload (fun _ => World.sample) { name := "vars" } sampleRun.1
        sampleRun.2 b) ∧
      sampleRun.2.any fun x => x.1 = 1 && !x.2.2.isOk := by
  have hside := uploads_concurrently (u := sampleUpload) (fun _ => World.sample_holds)
    isOk_run_sampleUpload sampleSchedule
  have hdone := hside.1 (by decide)
  have hend := hside.2 hdone
  rw [← sampleRun] at hdone hend
  exact ⟨World.sample_holds, isOk_run_sampleUpload, hdone, hend, refused_sampleRun⟩

end DeploySync.Sync
