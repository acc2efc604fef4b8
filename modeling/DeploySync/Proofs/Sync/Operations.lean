import DeploySync.Proofs.BlobKey
import DeploySync.Proofs.Sync.History
import DeploySync.Proofs.Sync.Upload
import DeploySync.Tool.Run

/-!
# Operations one after the other

The tools share one bucket. Whatever they are asked to do, with whichever settings, files and
outputs, and whichever of their calls on the bucket fail, they leave it in order: under every key
stands a document of the kind that its last segment names.

## Main definitions

* `Sync.Operation`, `Sync.Operation.plan` — what the tools can be asked to do
* `Sync.Job` — an operation with its settings, files and outputs, and what makes its calls fail
* `Sync.Job.finish`, `Sync.Job.shown` — jobs one after the other
* `Sync.InOrder` — the bytes under a key are of the kind that the key names

## Main results

* `Sync.Upload.exists_text_of_mem` — what an upload uploads are its drafts
* `Sync.Job.inOrder_calls` — what a job uploads is in order
* `Sync.Operation.spares_plan` — downloads and exports change nothing in the bucket
* `Sync.jobs_inOrder` — what jobs one after the other leave
-/

namespace DeploySync

/-- What is written of the document is read as the document. -/
def Document.ReadsBack (d : Document) : Prop :=
  ∀ text, d.toYaml = .ok text → Document.ofBytes (Bytes.ofText text) = .ok d

/-- What is written of the metadata is read as the metadata. -/
def Metadata.ReadsBack (m : Metadata) : Prop :=
  ∀ text, m.toYaml = .ok text → Metadata.ofBytes (Bytes.ofText text) = .ok m

namespace Sync

open DeploySync.Plan (done Asks)
open World (Faulty Shown)

variable {α β : Type} {w : World} {b : MemoryBucket} {key : BlobKey} {bytes : ByteArray}

/-! ### Plans that spare the bucket -/

theorem spares_onBucket {c : Bucket.Call} (hc : c.isWrite = false) : Asks Spares (onBucket c) :=
  ⟨hc, fun _ => trivial⟩

theorem spares_writeFile (p : Path) (bytes : ByteArray) : Asks Spares (writeFile p bytes) :=
  ⟨trivial, fun _ => trivial⟩

theorem spares_downloadIfExists (key : BlobKey) (destination : Path) :
    Asks Spares (downloadIfExists key destination) := by
  rw [downloadIfExists_eq]
  refine (spares_onBucket rfl).bind fun isThere => ?_
  cases isThere with
  | true =>
    refine (spares_onBucket rfl).bind fun bytes => ?_
    exact (spares_writeFile destination bytes).bind fun _ => Plan.asks_done _
  | false => exact Plan.asks_done _

theorem spares_fetchRequired (bucket : String) (key : BlobKey) (label : String) :
    Asks Spares (fetchRequired bucket key label) := by
  rw [fetchRequired_eq]
  refine (spares_onBucket rfl).bind fun isThere => ?_
  cases isThere with
  | true => exact spares_onBucket rfl
  | false => exact Plan.asks_done _

theorem spares_download (s : MetadataSync) (workspace : String) :
    Asks Spares (s.download workspace) := by
  refine (asks_ofExcept _).bind fun commonKey => ?_
  refine (spares_downloadIfExists commonKey _).bind fun common => ?_
  refine (asks_ofExcept _).bind fun metadataKey => ?_
  exact (spares_downloadIfExists metadataKey _).bind fun metadata => Plan.asks_done _

theorem spares_setEnv (s : MetadataSync) (workspace : String) :
    Asks Spares (s.setEnv workspace) := by
  refine (asks_ofExcept _).bind fun commonKey => ?_
  refine (spares_fetchRequired _ commonKey _).bind fun commonBytes => ?_
  refine (asks_ofExcept _).bind fun document => ?_
  refine (asks_ofExcept _).bind fun metadataKey => ?_
  refine (spares_fetchRequired _ metadataKey _).bind fun metadataBytes => ?_
  refine (asks_ofExcept _).bind fun metadata => ?_
  refine (asks_ofExcept _).bind fun p => ?_
  exact (spares_writeFile _ _).bind fun _ => Plan.asks_done _

theorem spares_componentVars (s : ExportSync) (workspace component : String) :
    Asks Spares (s.componentVars workspace component) := by
  refine (asks_ofExcept _).bind fun key => ?_
  exact (spares_fetchRequired _ key _).bind fun bytes => asks_ofExcept _

theorem spares_export (s : ExportSync) (workspace : String) : Asks Spares (s.run workspace) := by
  refine (spares_componentVars s workspace _).bind fun database => ?_
  refine (spares_componentVars s workspace _).bind fun backup => ?_
  refine (asks_ofExcept _).bind fun p => ?_
  exact (spares_writeFile _ _).bind fun _ => Plan.asks_done _

/-! ### What an upload uploads -/

/-- A call that uploads nothing but a text of the drafts, under its key. -/
def UploadsOf (drafts : List Draft) : Call → Prop
  | .bucket (.upload key bytes) => ∃ text, .ok (key, text) ∈ drafts ∧ bytes = Bytes.ofText text
  | _ => True

theorem uploadsOf_publish (c : StorageClass) {drafts all : List Draft} (hsub : drafts ⊆ all) :
    Asks (UploadsOf all) (publish c drafts) := by
  induction drafts with
  | nil => exact Plan.asks_done _
  | cons d rest ih =>
    rw [List.cons_subset] at hsub
    cases d with
    | error e => exact Plan.asks_done _
    | ok entry =>
      obtain ⟨key, text⟩ := entry
      exact ⟨⟨text, hsub.1, rfl⟩, fun _ => ⟨trivial, fun _ => ih hsub.2⟩⟩

theorem uploadsOf_store (t : Target) (drafts : List Draft) (r : α) :
    Asks (UploadsOf drafts) (store t drafts r) := by
  have hensure : Asks (UploadsOf drafts) (ensureBucket t) := by
    refine (asks_ensureBucket t).mono fun q hq => ?_
    rcases q with (_ | _ | _ | _ | _ | _) | _ | _ | _
    case bucket.upload => exact hq.elim
    all_goals trivial
  refine hensure.bind fun _ => ?_
  exact (uploadsOf_publish _ (List.Subset.refl _)).bind fun _ => Plan.asks_done _

/-- What an upload uploads are the drafts that it has read, whichever calls fail. -/
theorem Upload.exists_text_of_mem (h : Faulty) (u : Upload) (hw : w.Holds b)
    (hmem : ⟨.bucket (.upload key bytes), .ok ()⟩ ∈ u.plan.calls h.answer w) :
    ∃ drafts r text, (w.run u.prepare).1 = .ok (drafts, r) ∧ .ok (key, text) ∈ drafts ∧
      bytes = Bytes.ofText text := by
  obtain ⟨heq, -⟩ :=
    run_reading h World.faultless u.asks_prepare (Carries.refl hw) (Carries.refl hw)
  rw [plan_eq, Plan.calls_bind] at hmem
  rcases List.mem_append.1 hmem with hmem | hmem
  · exact (Plan.forall_mem_calls u.asks_prepare w _ hmem).elim
  · rcases hread : u.prepare.run h.answer w with ⟨e | ⟨drafts, r⟩, w'⟩ <;> rw [hread] at hmem heq
    · cases hmem
    · obtain ⟨text, htext, hbytes⟩ :=
        Plan.forall_mem_calls (uploadsOf_store u.target drafts r) w' _ hmem
      exact ⟨drafts, r, text, heq.symm, htext, hbytes⟩

/-! ### Operations -/

/-- What the tools can be asked to do. -/
inductive Operation where
  | uploadCommonVars
  | downloadCommonVars
  | metadata (action : Tool.MetadataAction)
  | exportComponents (workspace : String) (destination : Path)

namespace Operation

/-- The plan of an operation under settings. -/
def plan (c : Settings) (executable : Path) : Operation → Plan Unit
  | .uploadCommonVars => do
    let sync ← Plan.ofExcept (CommonVarsSync.ofSettings c executable)
    sync.upload
  | .downloadCommonVars => do
    let sync ← Plan.ofExcept (CommonVarsSync.ofSettings c executable)
    let _ ← sync.download
    return ()
  | .metadata action => do
    let sync ← Plan.ofExcept (MetadataSync.ofSettings c executable)
    action.plan sync
  | .exportComponents workspace destination => do
    let _ ← (ExportSync.mk c.bucket destination).run workspace
    return ()

/-- The operation uploads something. -/
def isUpload : Operation → Bool
  | .uploadCommonVars => true
  | .metadata .upload => true
  | _ => false

/-- An operation that uploads nothing changes nothing in the bucket. -/
theorem spares_plan (c : Settings) (executable : Path) {o : Operation} (ho : o.isUpload = false) :
    Asks Spares (o.plan c executable) := by
  cases o with
  | uploadCommonVars => cases ho
  | downloadCommonVars =>
    refine (asks_ofExcept _).bind fun sync => ?_
    exact (spares_downloadIfExists _ _).bind fun _ => Plan.asks_done _
  | metadata action =>
    refine (asks_ofExcept _).bind fun sync => ?_
    cases action with
    | upload => cases ho
    | download workspace => exact (spares_download sync workspace).bind fun _ => Plan.asks_done _
    | setEnv workspace => exact (spares_setEnv sync workspace).bind fun _ => Plan.asks_done _
  | exportComponents workspace destination =>
    exact (spares_export _ workspace).bind fun _ => Plan.asks_done _

end Operation

/-- An operation with the settings, the files and the outputs that it finds, and what makes its
calls on the bucket fail. -/
structure Job where
  operation : Operation
  settings : Settings
  executable : Path
  files : Files
  outputs : List (String × String)
  faulty : Faulty

namespace Job

/-- The world in which the job runs: of the one before it only the bucket is left. -/
def world (job : Job) (w : World) : World :=
  { w.withFiles job.files with outputs := job.outputs }

/-- The plan of the job. -/
def plan (job : Job) : Plan Unit := job.operation.plan job.settings job.executable

/-- The world behind jobs that run one after the other. -/
def finish : List Job → World → World
  | [], w => w
  | job :: rest, w => finish rest (job.plan.run job.faulty.answer (job.world w)).2

/-- The calls of jobs that run one after the other. -/
def shown : List Job → World → List Shown
  | [], _ => []
  | job :: rest, w =>
    job.plan.calls job.faulty.answer (job.world w) ++
      shown rest (job.plan.run job.faulty.answer (job.world w)).2

/-- The values that an upload would write are read back from what is written of them: the document
in the file of common settings, and the metadata that the provisioning tool tells. -/
def ReadsBack (job : Job) : Prop :=
  ∀ w b, (job.world w).Holds b →
    match job.operation with
    | .uploadCommonVars => ∀ s d, CommonVarsSync.ofSettings job.settings job.executable = .ok s →
      document (job.world w) s.source = .ok d → d.ReadsBack
    | .metadata .upload => ∀ s d m, MetadataSync.ofSettings job.settings job.executable = .ok s →
      document (job.world w) s.source = .ok d → ((job.world w).run s.collect).1 = .ok m →
        d.ReadsBack ∧ m.ReadsBack
    | _ => True

end Job

/-! ### Order in the bucket -/

/-- How the keys of common settings end. -/
def commonVarsEnding : List Char := '/' :: Document.commonVarsFile.toList

/-- How the keys of metadata end. -/
def metadataEnding : List Char := '/' :: Metadata.fileName.toList

/-- The bytes under a key are those of a document of the kind that the key names. -/
def InOrder (key : BlobKey) (bytes : ByteArray) : Prop :=
  (commonVarsEnding <:+ key.chars ∧ ∃ d, Document.ofBytes bytes = .ok d) ∨
    (metadataEnding <:+ key.chars ∧ ∃ m, Metadata.ofBytes bytes = .ok m)

/-- No key ends in both ways. -/
theorem not_suffix_both {chars : List Char} (hcommon : commonVarsEnding <:+ chars)
    (hmetadata : metadataEnding <:+ chars) : False := by
  have hsuffix : metadataEnding <:+ commonVarsEnding :=
    List.suffix_of_suffix_length_le hmetadata hcommon (by decide)
  revert hsuffix
  decide

theorem InOrder.ending (h : InOrder key bytes) :
    commonVarsEnding <:+ key.chars ∨ metadataEnding <:+ key.chars :=
  h.imp And.left And.left

theorem InOrder.document (h : InOrder key bytes) (hkey : commonVarsEnding <:+ key.chars) :
    ∃ d, Document.ofBytes bytes = .ok d := by
  rcases h with ⟨-, hd⟩ | ⟨hkey', -⟩
  · exact hd
  · exact (not_suffix_both hkey hkey').elim

theorem InOrder.metadata (h : InOrder key bytes) (hkey : metadataEnding <:+ key.chars) :
    ∃ m, Metadata.ofBytes bytes = .ok m := by
  rcases h with ⟨hkey', -⟩ | ⟨-, hm⟩
  · exact (not_suffix_both hkey' hkey).elim
  · exact hm

theorem inOrder_commonVars {workspace text : String} {d : Document} (hd : d.ReadsBack)
    (hdraft : .ok (key, text) =
      draft (BlobKey.workspaceFile workspace Document.commonVarsFile) d.toYaml) :
    InOrder key (Bytes.ofText text) := by
  obtain ⟨hkey, htext⟩ := draft_eq_ok_iff.1 hdraft.symm
  exact Or.inl ⟨BlobKey.suffix_of_workspaceFile hkey (by decide), d, hd text htext⟩

theorem inOrder_metadata {workspace text : String} {m : Metadata} (hm : m.ReadsBack)
    (hdraft : .ok (key, text) =
      draft (BlobKey.workspaceFile workspace Metadata.fileName) m.toYaml) :
    InOrder key (Bytes.ofText text) := by
  obtain ⟨hkey, htext⟩ := draft_eq_ok_iff.1 hdraft.symm
  exact Or.inr ⟨BlobKey.suffix_of_workspaceFile hkey (by decide), m, hm text htext⟩

/-- What an upload of the common settings uploads is in order. -/
theorem inOrder_uploadCommonVars (h : Faulty) {c : Settings} {executable : Path}
    {s : CommonVarsSync} (hs : CommonVarsSync.ofSettings c executable = .ok s) (hw : w.Holds b)
    (hround : ∀ d, Sync.document w s.source = .ok d → d.ReadsBack)
    (hmem : ⟨.bucket (.upload key bytes), .ok ()⟩ ∈ s.upload.calls h.answer w) :
    InOrder key bytes := by
  obtain ⟨drafts, r, text, hread, htext, rfl⟩ :=
    Upload.exists_text_of_mem h (.commonVars s) hw hmem
  obtain ⟨d, hd, rfl⟩ := Upload.exists_of_run_prepare_commonVars hread
  -- the key of the synchronization is one of a file of common settings
  obtain ⟨-, -, -, name, -, -, hkey, -⟩ := ofSettings_commonVars hs
  rw [← hkey] at htext
  exact inOrder_commonVars (hround d hd) (List.mem_singleton.1 htext)

/-- What an upload of the metadata uploads is in order. -/
theorem inOrder_uploadMetadata (h : Faulty) {s : MetadataSync} (hw : w.Holds b)
    (hround : ∀ d m, Sync.document w s.source = .ok d → (w.run s.collect).1 = .ok m →
      d.ReadsBack ∧ m.ReadsBack)
    (hmem : ⟨.bucket (.upload key bytes), .ok ()⟩ ∈ s.upload.calls h.answer w) :
    InOrder key bytes := by
  obtain ⟨drafts, r, text, hread, htext, rfl⟩ := Upload.exists_text_of_mem h (.metadata s) hw hmem
  obtain ⟨d, m, hd, -, hm, rfl⟩ := Upload.exists_of_run_prepare_metadata hread
  obtain ⟨hround, hround'⟩ := hround d m hd hm
  -- the document comes first, and then the metadata
  rcases List.mem_cons.1 htext with htext | htext
  · exact inOrder_commonVars hround htext
  · exact inOrder_metadata hround' (List.mem_singleton.1 htext)

namespace Job

variable {job : Job} {jobs : List Job}

/-- A job finds the bucket that the one before it left. -/
theorem world_holds (job : Job) (hw : w.Holds b) : (job.world w).Holds b :=
  ⟨hw.holder, hw.interruptions⟩

/-- What a job uploads is in order. -/
theorem inOrder_calls (hw : w.Holds b) (hround : job.ReadsBack)
    (hmem : ⟨.bucket (.upload key bytes), .ok ()⟩ ∈
      job.plan.calls job.faulty.answer (job.world w)) : InOrder key bytes := by
  have hw' := job.world_holds hw
  replace hround := hround w b hw'
  -- an operation that uploads nothing makes no such call
  have hspares (ho : job.operation.isUpload = false) : False := by
    have hasks := Operation.spares_plan job.settings job.executable ho
    cases Plan.forall_mem_calls hasks _ _ hmem
  cases hoperation : job.operation with
  | uploadCommonVars =>
    rw [plan, hoperation, Operation.plan] at hmem
    rw [hoperation] at hround
    cases hs : CommonVarsSync.ofSettings job.settings job.executable with
    | error e =>
      rw [hs] at hmem
      cases hmem
    | ok s =>
      rw [hs] at hmem
      exact inOrder_uploadCommonVars job.faulty hs hw' (fun d hd => hround s d hs hd) hmem
  | metadata action =>
    cases action with
    | upload =>
      rw [plan, hoperation, Operation.plan] at hmem
      rw [hoperation] at hround
      cases hs : MetadataSync.ofSettings job.settings job.executable with
      | error e =>
        rw [hs] at hmem
        cases hmem
      | ok s =>
        rw [hs] at hmem
        replace hmem : _ ∈ (s.upload.bind fun _ => done (.ok ())).calls job.faulty.answer
          (job.world w) := hmem
        rw [Plan.calls_bind] at hmem
        refine inOrder_uploadMetadata job.faulty hw' (fun d m hd hm => hround s d m hs hd hm) ?_
        rcases List.mem_append.1 hmem with hmem | hmem
        · exact hmem
        · split at hmem <;> cases hmem
    | _ => exact (hspares (by rw [hoperation]; rfl)).elim
  | _ => exact (hspares (by rw [hoperation]; rfl)).elim

/-- A job takes the bucket along its calls. -/
theorem history (job : Job) (hw : w.Holds b) :
    ∃ b', (job.plan.run job.faulty.answer (job.world w)).2.Holds b' ∧
      History b (job.plan.calls job.faulty.answer (job.world w)) b' :=
  history_run job.faulty job.plan (job.world_holds hw)

theorem history_finish (jobs : List Job) (hw : w.Holds b) :
    ∃ b', (finish jobs w).Holds b' ∧ History b (shown jobs w) b' := by
  induction jobs generalizing w b with
  | nil => exact ⟨b, hw, .nil b⟩
  | cons job rest ih =>
    obtain ⟨b₁, hw₁, hfirst⟩ := job.history hw
    obtain ⟨b₂, hw₂, hrest⟩ := ih hw₁
    exact ⟨b₂, hw₂, hfirst.append hrest⟩

/-- What jobs one after the other upload is in order. -/
theorem inOrder_shown (hw : w.Holds b) (hround : ∀ job ∈ jobs, job.ReadsBack)
    (hmem : ⟨.bucket (.upload key bytes), .ok ()⟩ ∈ shown jobs w) : InOrder key bytes := by
  induction jobs generalizing w b with
  | nil => cases hmem
  | cons job rest ih =>
    rw [List.forall_mem_cons] at hround
    rcases List.mem_append.1 hmem with hmem | hmem
    · exact inOrder_calls hw hround.1 hmem
    · obtain ⟨b₁, hw₁, -⟩ := job.history hw
      exact ih hw₁ hround.2 hmem

theorem finish_append (jobs jobs' : List Job) (w : World) :
    finish (jobs ++ jobs') w = finish jobs' (finish jobs w) := by
  induction jobs generalizing w with
  | nil => rfl
  | cons job rest ih => exact ih _

/-- A job that uploads nothing leaves the bucket as it is. -/
theorem holds_of_not_isUpload (hw : w.Holds b) (ho : job.operation.isUpload = false) :
    (job.plan.run job.faulty.answer (job.world w)).2.Holds b := by
  obtain ⟨b', hw', hhistory⟩ := job.history hw
  have hasks := Operation.spares_plan job.settings job.executable ho
  obtain rfl := hhistory.eq_of_spares (Plan.forall_mem_calls hasks (job.world w))
  exact hw'

end Job

/-- What jobs one after the other leave of a bucket that was missing at first, whichever of their
calls on it fail. Every key is one of common settings or of metadata, and a document of that kind
stands under it; only blobs have a storage class; the bucket was created at most once. At every
point in between no key disappears any more, and a job that uploads nothing leaves the bucket as it
finds it. -/
theorem jobs_inOrder (jobs : List Job) {name : String} (hw : w.Holds { name })
    (hround : ∀ job ∈ jobs, job.ReadsBack) :
    ∃ b, (Job.finish jobs w).Holds b ∧
      (∀ k, (b.blob? k).isSome → commonVarsEnding <:+ k.chars ∨ metadataEnding <:+ k.chars) ∧
      (∀ k bytes, b.blob? k = some bytes →
        (commonVarsEnding <:+ k.chars → ∃ d, Document.ofBytes bytes = .ok d) ∧
        (metadataEnding <:+ k.chars → ∃ m, Metadata.ofBytes bytes = .ok m)) ∧
      (∀ k, (b.class? k).isSome → (b.blob? k).isSome) ∧
      (creations (Job.shown jobs w)).length ≤ 1 ∧
      ∀ before rest, jobs = before ++ rest →
        ∃ b', (Job.finish before w).Holds b' ∧
          (∀ k, (b'.blob? k).isSome → (b.blob? k).isSome) ∧
          ∀ job ∈ rest.head?, job.operation.isUpload = false →
            (Job.finish (before ++ [job]) w).Holds b' := by
  obtain ⟨b, hfinish, hhistory⟩ := Job.history_finish jobs hw
  -- every blob was uploaded by one of the jobs, since there was none at first
  have hinOrder (k : BlobKey) (bytes : ByteArray) (hk : b.blob? k = some bytes) :
      InOrder k bytes := by
    rcases hhistory.blob?_eq_some hk with hnone | hmem
    · cases hnone
    · exact Job.inOrder_shown hw hround hmem
  refine ⟨b, hfinish, ?_, ?_, ?_, ?_, ?_⟩
  · intro k hk
    obtain ⟨bytes, hbytes⟩ := Option.isSome_iff_exists.1 hk
    exact (hinOrder k bytes hbytes).ending
  · intro k bytes hk
    exact ⟨(hinOrder k bytes hk).document, (hinOrder k bytes hk).metadata⟩
  · exact hhistory.classed nofun
  · have hcount := hhistory.length_creations
    have hle := Bool.toNat_le b.isThere
    rw [Bool.toNat_false] at hcount
    omega
  · rintro before rest rfl
    obtain ⟨b', hbefore, -⟩ := Job.history_finish before hw
    refine ⟨b', hbefore, ?_, ?_⟩
    · obtain ⟨b'', hrest, hhistory'⟩ := Job.history_finish rest hbefore
      rw [← Job.finish_append] at hrest
      obtain rfl := hrest.eq hfinish
      exact fun k hk => hhistory'.isSome_blob? hk
    · intro job _ ho
      rw [Job.finish_append]
      exact Job.holds_of_not_isUpload hbefore ho

/-- A job on the files and the outputs of the small world. -/
def sampleJob (o : Operation) (h : Faulty) : Job where
  operation := o
  settings := World.sampleSettings
  executable := ⟨"/tool"⟩
  files := World.sample.files
  outputs := World.sample.outputs
  faulty := h

theorem readsBack_sampleDocument : World.sampleDocument.ReadsBack := by
  intro text htext
  obtain rfl := Except.ok.inj (World.toYaml_sampleDocument.symm.trans htext)
  decide +kernel

theorem readsBack_sampleJob (o : Operation) (h : Faulty) : (sampleJob o h).ReadsBack := by
  intro w b hw
  have hsource : document ((sampleJob o h).world w) ⟨"/stage/common_vars.yaml"⟩ =
      .ok World.sampleDocument :=
    show loaded _ (Files.failed _ (World.sample.files.read _)) = _ by decide +kernel
  cases o with
  | uploadCommonVars =>
    intro s d hs hd
    obtain rfl := Except.ok.inj (ofSettings_sampleCommonVars.symm.trans hs)
    obtain rfl := Except.ok.inj (hsource.symm.trans hd)
    exact readsBack_sampleDocument
  | metadata action =>
    cases action with
    | upload =>
      intro s d m hs hd hm
      obtain rfl := Except.ok.inj (ofSettings_sampleMetadata.symm.trans hs)
      obtain rfl := Except.ok.inj (hsource.symm.trans hd)
      have hparse : Metadata.parseNodes "[\"10.0.0.1\"]" = .ok ["10.0.0.1"] := by decide +kernel
      obtain rfl := Except.ok.inj ((run_collect hw rfl rfl hparse).symm.trans hm)
      refine ⟨readsBack_sampleDocument, fun text htext => ?_⟩
      have hyaml : Metadata.toYaml ⟨["10.0.0.1"], Metadata.parseGateway "\"10.0.0.9\""⟩ =
          .ok "asdb-ips:\n- 10.0.0.1\ngw-ip: 10.0.0.9\n" := by decide +kernel
      obtain rfl := Except.ok.inj (hyaml.symm.trans htext)
      decide +kernel
    | _ => trivial
  | _ => trivial

/-- The common settings are uploaded, an upload of the metadata is cut short, and the properties of
the workspace are written. -/
theorem jobs_inOrder_sample :
    let jobs := [sampleJob .uploadCommonVars World.faultless,
      sampleJob (.metadata .upload) (Faulty.failingAt 6 (.storage (.other "down"))),
      sampleJob (.metadata (.setEnv "dev")) World.faultless]
    World.sample.Holds { name := "vars" } ∧ (∀ job ∈ jobs, job.ReadsBack) ∧
      ∃ b, (Job.finish jobs World.sample).Holds b ∧
        (∀ k, (b.blob? k).isSome → commonVarsEnding <:+ k.chars ∨ metadataEnding <:+ k.chars) ∧
        (creations (Job.shown jobs World.sample)).length ≤ 1 := by
  intro jobs
  have hround : ∀ job ∈ jobs, job.ReadsBack := by
    intro job hjob
    simp only [jobs, List.mem_cons, List.not_mem_nil, or_false] at hjob
    rcases hjob with rfl | rfl | rfl <;> exact readsBack_sampleJob _ _
  obtain ⟨b, hfinish, hkeys, -, -, hcreations, -⟩ := jobs_inOrder jobs World.sample_holds hround
  exact ⟨World.sample_holds, hround, b, hfinish, hkeys, hcreations⟩

end Sync

end DeploySync
