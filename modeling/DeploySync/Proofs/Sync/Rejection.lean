import DeploySync.Proofs.BlobKey
import DeploySync.Proofs.Sync.History
import DeploySync.Proofs.Sync.Upload
import DeploySync.Proofs.Yaml.Writable

/-!
# Rejected uploads of metadata

An upload of metadata reads its inputs before it touches the bucket, so that inputs which are
rejected leave the bucket alone. One check stands behind the making of the bucket: whether the
workspace makes a key. A blank workspace is rejected only once the bucket has been created.

## Main definitions

* `Sync.LacksKey` — everything an upload reads is there, but its workspace makes no key

## Main results

* `Sync.endsWell_store` — storing texts under keys fails only where a call does
* `Sync.upload_rejected` — what an upload has done to the bucket when it fails for its inputs
* `Sync.not_untouched_of_blank` — a blank workspace, and a bucket that was created for nothing
-/

namespace DeploySync.Sync

open DeploySync.Plan (done EndsWell)
open World (Faulty)

variable {α : Type} {w w' : World} {b : MemoryBucket} {s : MetadataSync} {e : Error}

/-! ### Storing -/

theorem endsWell_ensureBucket (t : Target) : EndsWell (ensureBucket t) := by
  rw [ensureBucket_eq]
  refine EndsWell.bind (fun _ => rfl) fun isThere => ?_
  cases isThere with
  | true => rfl
  | false => exact fun _ => rfl

theorem endsWell_publish (c : StorageClass) (texts : List (BlobKey × String)) :
    EndsWell (publish c (texts.map .ok)) := by
  induction texts with
  | nil => rfl
  | cons entry rest ih => exact fun _ _ => ih

/-- Storing texts under keys fails only where a call does. -/
theorem endsWell_store (t : Target) (texts : List (BlobKey × String)) (r : α) :
    EndsWell (store t (texts.map .ok) r) := by
  refine (endsWell_ensureBucket t).bind fun _ => ?_
  exact (endsWell_publish t.storageClass texts).bind fun _ => rfl

/-- If no call on the bucket fails, making sure of it leaves it there, and creates it if it was
missing. -/
theorem answer_ensureBucket (h : Faulty) (t : Target) (hw : w.Holds b)
    (hok : ∀ c e, ⟨.bucket c, .error e⟩ ∉ (ensureBucket t).calls h.answer w) :
    ∃ isNew w', (ensureBucket t).run h.answer w = (.ok isNew, w') ∧
      w'.Holds { b with isThere := true } ∧
      creations ((ensureBucket t).calls h.answer w) =
        if b.isThere then [] else [(t.region, t.storageClass)] := by
  rw [ensureBucket_eq] at hok ⊢
  have hw₁ : (w.behind .bucketExists b).Holds b := hw.behind .bucketExists b
  rcases h.answer_bucket hw .bucketExists with hexists | ⟨e, hexists⟩
  · have hcalls : ((onBucket .bucketExists).bind (createUnless t)).calls h.answer w =
        ⟨.bucket .bucketExists, .ok b.isThere⟩ ::
          (createUnless t b.isThere).calls h.answer (w.behind .bucketExists b) :=
      Plan.calls_ask_ok hexists
    have hrun : ((onBucket .bucketExists).bind (createUnless t)).run h.answer w =
        (createUnless t b.isThere).run h.answer (w.behind .bucketExists b) :=
      Plan.run_ask_ok hexists
    rw [hcalls] at hok ⊢
    rw [hrun]
    cases hthere : b.isThere with
    | true =>
      have hb : { b with isThere := true } = b := by rw [← hthere]
      exact ⟨false, w.behind .bucketExists b, rfl, by rwa [hb], rfl⟩
    | false =>
      -- the bucket is missing, so that creating it succeeds if it is reached
      rw [hthere] at hok
      rcases h.answer_bucket hw₁ (.createBucket t.region t.storageClass) with hcreate | ⟨e, hcreate⟩
      · rw [MemoryBucket.perform_createBucket hthere] at hcreate
        refine ⟨true, _, Plan.run_ask_ok hcreate, hw₁.behind _ _, ?_⟩
        exact congrArg (fun calls => creations (_ :: calls)) (Plan.calls_ask_ok hcreate)
      · have hlast : (createUnless t false).calls h.answer (w.behind .bucketExists b) =
            [⟨.bucket (.createBucket t.region t.storageClass), .error e⟩] :=
          Plan.calls_ask_error hcreate
        rw [hlast] at hok
        exact absurd (List.mem_cons_of_mem _ (List.mem_singleton_self _)) (hok _ e)
  · have hcalls : ((onBucket .bucketExists).bind (createUnless t)).calls h.answer w =
        [⟨.bucket .bucketExists, .error e⟩] := Plan.calls_ask_error hexists
    rw [hcalls] at hok
    exact absurd (List.mem_singleton_self _) (hok _ e)

theorem exists_bucket_of_mem_store {t : Target} {drafts : List Draft} {r : α} {h : Faulty}
    {x : World.Shown} (hx : x ∈ (store t drafts r).calls h.answer w) : ∃ c, x.1 = .bucket c := by
  have hasks := Plan.forall_mem_calls (asks_store t drafts r) w x hx
  rcases x with ⟨c | _ | _ | _, answer⟩
  · exact ⟨c, rfl⟩
  all_goals exact (hasks.elim id id).elim

theorem spares_of_isReading {q : Call} (hq : IsReading q) : Spares q := by
  cases q with
  | bucket c => exact hq.elim
  | _ => trivial

/-! ### What ends an upload -/

namespace Upload

variable {u : Upload} {r : u.Result} {drafts : List Draft} {texts : List (BlobKey × String)}

/-- An upload that fails while it reads has made no call on the bucket. -/
theorem failed_reading (h : Faulty) (hw : w.Holds b)
    (hread : u.prepare.run h.answer w = (.error e, w')) :
    u.plan.run h.answer w = (.error e, w') ∧ w'.Holds b ∧
      ∀ x ∈ u.plan.calls h.answer w, IsReading x.1 := by
  have hcarries := (run_reading h h u.asks_prepare (Carries.refl hw) (Carries.refl hw)).2
  rw [hread] at hcarries
  rw [plan_eq, Plan.run_bind_error hread, Plan.calls_bind_error hread]
  exact ⟨rfl, hcarries.holds, Plan.forall_mem_calls u.asks_prepare w⟩

/-- An upload of texts with their keys fails only where a call on the bucket does. -/
theorem failed_storing (h : Faulty)
    (hread : u.prepare.run h.answer w = (.ok (texts.map .ok, r), w'))
    (herror : (u.plan.run h.answer w).1 = .error e) :
    ∃ c, ⟨.bucket c, .error e⟩ ∈ u.plan.calls h.answer w := by
  rw [plan_eq, Plan.run_bind_ok hread] at herror
  rw [plan_eq, Plan.calls_bind_ok hread]
  obtain ⟨q, hmem⟩ := (endsWell_store u.target texts r).exists_failed herror
  obtain ⟨c, rfl⟩ := exists_bucket_of_mem_store hmem
  exact ⟨c, List.mem_append_right _ hmem⟩

/-- An upload whose first text has no key or cannot be written fails for that, but it has made sure
of the bucket before. -/
theorem failed_first (h : Faulty) (hw : w.Holds b)
    (hread : u.prepare.run h.answer w = (.ok (.error e :: drafts, r), w'))
    (hok : ∀ c e', ⟨.bucket c, .error e'⟩ ∉ u.plan.calls h.answer w) :
    ∃ w'', u.plan.run h.answer w = (.error e, w'') ∧ w''.Holds { b with isThere := true } ∧
      creations (u.plan.calls h.answer w) =
        (if b.isThere then [] else [(u.target.region, u.target.storageClass)]) ∧
      ∀ x ∈ u.plan.calls h.answer w, IsReading x.1 ∨ IsEnsuring u.target x.1 := by
  have hreading := Plan.forall_mem_calls (h := h.answer) u.asks_prepare w
  have hcarries : Carries w w' b := by
    have hbehind := (run_reading h h u.asks_prepare (Carries.refl hw) (Carries.refl hw)).2
    rwa [hread] at hbehind
  -- the first draft ends the plan right behind the making of the bucket
  have hrun : u.plan.run h.answer w =
      ((ensureBucket u.target).bind fun _ =>
        (done (.error e) : Plan u.Result)).run h.answer w' := by
    rw [plan_eq, Plan.run_bind_ok hread]
    rfl
  have hcalls : u.plan.calls h.answer w = u.prepare.calls h.answer w ++
      ((ensureBucket u.target).bind fun _ => (done (.error e) : Plan u.Result)).calls h.answer
        w' := by
    rw [plan_eq, Plan.calls_bind_ok hread]
    rfl
  rw [hcalls] at hok ⊢
  obtain ⟨isNew, w₂, hensure, hw₂, hcreations⟩ :=
    answer_ensureBucket h u.target hcarries.holds fun c e' hmem => hok c e' <| by
      rw [Plan.calls_bind]
      exact List.mem_append_right _ (List.mem_append_left _ hmem)
  rw [hrun, Plan.run_bind_ok hensure, Plan.calls_bind_ok hensure, Plan.calls_done,
    List.append_nil, creations_append, hcreations,
    creations_of_spares fun x hx => spares_of_isReading (hreading x hx), List.nil_append]
  refine ⟨w₂, rfl, hw₂, rfl, fun x hx => ?_⟩
  rcases List.mem_append.1 hx with hx | hx
  · exact Or.inl (hreading x hx)
  · exact Or.inr (Plan.forall_mem_calls (asks_ensureBucket u.target) w' x hx)

end Upload

/-! ### Rejected uploads -/

/-- A document that was loaded can be written again. -/
theorem exists_toYaml_of_document {p : Path} {d : Document} (hd : document w p = .ok d) :
    ∃ yaml, d.toYaml = .ok yaml := by
  rw [document, loaded] at hd
  cases htext : (Files.failed p (w.files.read p)).bind (Files.textOf p) with
  | error e =>
    rw [htext] at hd
    cases hd
  | ok text =>
    rw [htext] at hd
    exact Document.exists_toYaml_of_parse hd

/-- Everything that the upload reads is there, but the workspace is blank once the slashes around it
are gone, so that it makes no key. -/
def LacksKey (s : MetadataSync) (w : World) : Prop :=
  ∃ d workspace m, document w s.source = .ok d ∧
    d.property MetadataSync.workspaceField = .ok workspace ∧ (w.run s.collect).1 = .ok m ∧
    Text.allBlank (BlobKey.stripSlashes workspace.toList)

/-- If the workspace makes no key, reading gives two drafts without one. -/
theorem LacksKey.run_prepare (hs : LacksKey s w) :
    ∃ workspace, (w.run (Upload.prepare (.metadata s))).1 =
      .ok ([.error (.validation .blankKeySegment), .error (.validation .blankKeySegment)],
        workspace) := by
  obtain ⟨d, workspace, m, hd, hworkspace, hm, hblank⟩ := hs
  refine ⟨workspace, ?_⟩
  rw [Upload.run_prepare_metadata hd hm, hworkspace, Except.map,
    BlobKey.workspaceFile_of_blank hblank, BlobKey.workspaceFile_of_blank hblank]
  rfl

/-- What was read is stored under its keys, unless the workspace makes none. -/
theorem exists_texts_of_run_prepare {drafts : List Draft} {workspace : String}
    (hread : (w.run (Upload.prepare (.metadata s))).1 = .ok (drafts, workspace))
    (hs : ¬ LacksKey s w) : ∃ texts : List (BlobKey × String), drafts = texts.map .ok := by
  obtain ⟨d, m, hd, hworkspace, hm, rfl⟩ := Upload.exists_of_run_prepare_metadata hread
  have hnot : ¬ Text.allBlank (BlobKey.stripSlashes workspace.toList) := fun hblank =>
    hs ⟨d, workspace, m, hd, hworkspace, hm, hblank⟩
  have hfile : ¬ Text.allBlank (BlobKey.stripSlashes Document.commonVarsFile.toList) := by decide
  have hfile' : ¬ Text.allBlank (BlobKey.stripSlashes Metadata.fileName.toList) := by decide
  obtain ⟨key, hkey⟩ := BlobKey.exists_workspaceFile hnot hfile
  obtain ⟨key', hkey'⟩ := BlobKey.exists_workspaceFile hnot hfile'
  -- whatever was read can be written
  obtain ⟨yaml, hyaml⟩ := exists_toYaml_of_document hd
  obtain ⟨yaml', hyaml'⟩ := m.exists_toYaml
  refine ⟨[(key, yaml), (key', yaml')], ?_⟩
  rw [hkey, hkey', hyaml, hyaml']
  rfl

/-- What an upload of metadata has done to the bucket when it fails with an error that no call on
the bucket returned. It has only read, and the bucket is as it was, unless everything that it reads
is there and the workspace is blank. It fails for that with the bucket made sure of: a missing one
was created, and nothing was uploaded. -/
theorem upload_rejected (h : Faulty) (s : MetadataSync) (hw : w.Holds b)
    (herror : (s.upload.run h.answer w).1 = .error e)
    (hstore : ∀ c, ⟨.bucket c, .error e⟩ ∉ s.upload.calls h.answer w) :
    let calls := s.upload.calls h.answer w
    let w' := (s.upload.run h.answer w).2
    (¬ LacksKey s w → w'.Holds b ∧ ∀ x ∈ calls, IsReading x.1) ∧
      (LacksKey s w → e = .validation .blankKeySegment ∧ w'.Holds { b with isThere := true } ∧
        creations calls =
          (if b.isThere then [] else [(s.target.region, s.target.storageClass)]) ∧
        ∀ x ∈ calls, IsReading x.1 ∨ IsEnsuring s.target x.1) := by
  have hok : ∀ c e', ⟨.bucket c, .error e'⟩ ∉ s.upload.calls h.answer w := by
    intro c e' hmem
    obtain rfl : e' = e := Except.error.inj ((Plan.run_eq_of_failed hmem).symm.trans herror)
    exact hstore c hmem
  -- reading gives the same whichever calls on the bucket fail
  have hresult := (run_reading h World.faultless (Upload.metadata s).asks_prepare
    (Carries.refl hw) (Carries.refl hw)).1
  change _ = (w.run (Upload.prepare (.metadata s))).1 at hresult
  rcases hread : (Upload.prepare (.metadata s)).run h.answer w with
    ⟨e' | ⟨drafts, workspace⟩, w₁⟩ <;> rw [hread] at hresult
  · obtain ⟨hrun, hw₁, hcalls⟩ := Upload.failed_reading h hw hread
    refine ⟨fun _ => ⟨?_, hcalls⟩, fun hs => ?_⟩
    · exact (congrArg Prod.snd hrun) ▸ hw₁
    · -- with everything there, reading does not fail
      obtain ⟨workspace, hprepare⟩ := hs.run_prepare
      cases hresult.trans hprepare
  · by_cases hs : LacksKey s w
    · obtain ⟨workspace', hprepare⟩ := hs.run_prepare
      obtain ⟨rfl, rfl⟩ := Prod.mk.inj (Except.ok.inj (hresult.trans hprepare))
      obtain ⟨w₂, hrun, hw₂, hcreations, hcalls⟩ := Upload.failed_first h hw hread hok
      refine ⟨fun hnot => absurd hs hnot, fun _ => ⟨?_, ?_, hcreations, hcalls⟩⟩
      · exact Except.error.inj (herror.symm.trans (congrArg Prod.fst hrun))
      · exact (congrArg Prod.snd hrun) ▸ hw₂
    · -- texts with their keys are stored, and only a call on the bucket can end that
      obtain ⟨texts, rfl⟩ := exists_texts_of_run_prepare hresult.symm hs
      obtain ⟨c, hmem⟩ := Upload.failed_storing h hread herror
      exact absurd hmem (hstore c)

/-- The small world with a file of common settings that names a blank workspace. -/
def blankWorkspace : World :=
  { World.sample with
    surroundings := {
      files := {
        root := .directory
          [("stage", .directory
            [("common_vars.yaml", .file (Bytes.ofText "workspace: \"\"\n"))])] } } }

theorem blankWorkspace_holds : blankWorkspace.Holds { name := "vars" } := ⟨rfl, rfl⟩

theorem run_upload_blankWorkspace :
    (sampleMetadata.upload.run World.perform blankWorkspace).1 =
      .error (.validation .blankKeySegment) := by decide +kernel

theorem isOk_upload_blankWorkspace :
    ∀ x ∈ sampleMetadata.upload.calls World.perform blankWorkspace, x.2.isOk := by decide +kernel

theorem notMem_upload_blankWorkspace (c : Bucket.Call) :
    ⟨.bucket c, .error (.validation .blankKeySegment)⟩ ∉
      sampleMetadata.upload.calls World.perform blankWorkspace := fun hmem =>
  Bool.false_ne_true (isOk_upload_blankWorkspace _ hmem)

/-- A blank workspace is rejected, but with the bucket created, where it was missing. -/
theorem upload_rejected_blank :
    let w' := (sampleMetadata.upload.run World.perform blankWorkspace).2
    LacksKey sampleMetadata blankWorkspace ∧ w'.Holds { name := "vars", isThere := true } ∧
      creations (sampleMetadata.upload.calls World.perform blankWorkspace) =
        [("me-west1", .nearline)] := by
  have hlacks : LacksKey sampleMetadata blankWorkspace :=
    ⟨⟨.mapping [(.string "workspace", .string "")]⟩, "", ⟨["10.0.0.1"], "10.0.0.9"⟩,
      by decide +kernel, by decide +kernel, by decide +kernel, by decide +kernel⟩
  obtain ⟨-, hblank⟩ := upload_rejected World.faultless sampleMetadata blankWorkspace_holds
    run_upload_blankWorkspace notMem_upload_blankWorkspace
  obtain ⟨-, hholds, hcreations, -⟩ := hblank hlacks
  exact ⟨hlacks, hholds, hcreations⟩

/-- So it is not true that an upload which fails with an error that no call on the bucket returned
leaves the bucket as it was. -/
theorem not_untouched_of_blank :
    ¬ ∀ (s : MetadataSync) (w : World) (b : MemoryBucket) (e : Error), w.Holds b →
      (s.upload.run World.perform w).1 = .error e →
      (∀ c, ⟨.bucket c, .error e⟩ ∉ s.upload.calls World.perform w) →
      (s.upload.run World.perform w).2.Holds b := by
  intro hall
  have hholds := hall sampleMetadata blankWorkspace _ _ blankWorkspace_holds
    run_upload_blankWorkspace notMem_upload_blankWorkspace
  -- the bucket was created, and it would have to be missing still
  obtain ⟨b', hw', hhistory⟩ :=
    history_run World.faultless sampleMetadata.upload blankWorkspace_holds
  obtain rfl := hw'.eq hholds
  have hcount := hhistory.length_creations
  have hcreations : (creations (sampleMetadata.upload.calls World.perform blankWorkspace)).length =
      1 := by decide +kernel
  change (creations (sampleMetadata.upload.calls World.perform blankWorkspace)).length + 0 = 0
    at hcount
  omega

end DeploySync.Sync
