import DeploySync.Proofs.Sync.Upload

/-!
# The calls of the uploads

Whatever the bucket and the provisioning tool answer, an upload makes its calls in one order, stops
at the first one that fails with the error of that call, and creates the bucket only if it was told
that there is none.

## Main definitions

* `Sync.ensuring`, `Sync.storing` — the calls that make sure of the bucket and store a draft
* `MetadataSync.askingGateway`, `MetadataSync.asking` — the calls to the provisioning tool

## Main results

* `Sync.uploads_follow` — the calls of both uploads, for every behaviour of those who answer
-/

namespace DeploySync

open Plan (Handler Follows Answers Asks done follows_ask follows_bind)

variable {σ α : Type} {h : Handler Sync.Call Sync.Call.Answer σ}

namespace Sync

/-- The calls that make sure of the bucket. -/
def ensuring (region : String) (c : StorageClass) (existed : Bool) : List (Except Error Call) :=
  .ok (.bucket .bucketExists) ::
    if existed then [] else [.ok (.bucket (.createBucket region c))]

/-- The calls that store a draft; where there is none the upload ends. -/
def storing (c : StorageClass) : Draft → List (Except Error Call)
  | .ok (key, text) =>
    [.ok (.bucket (.upload key (Bytes.ofText text))), .ok (.bucket (.setClass key c))]
  | .error e => [.error e]

/-- The bucket is created only if the answer was that there is none. -/
theorem ensureBucket_follows (t : Target) (s : σ) :
    ∃ existed, Answers ((ensureBucket t).calls h s) (.bucket .bucketExists) existed ∧
      Follows (ensuring t.region t.storageClass existed) ((ensureBucket t).calls h s)
        ((ensureBucket t).run h s).1 := by
  have hne : Nonempty (Call.Answer (.bucket .bucketExists)) := ⟨false⟩
  obtain ⟨existed, hanswers, hfollows, hexisted⟩ :=
    Plan.call_follows (Call.bucket .bucketExists) h s
  -- the question is asked once, so that its answer is what the creation depends on
  have hcreate (isThere : Bool) : Asks (· ≠ .bucket .bucketExists) (createUnless t isThere) := by
    cases isThere with
    | true => exact Plan.asks_done _
    | false => exact ⟨by simp, fun _ => Plan.asks_done _⟩
  rw [ensureBucket_eq]
  refine ⟨existed, hanswers.bind fun isThere t' _ => Plan.answers_of_asks (hcreate isThere) t' _,
    follows_bind hfollows fun isThere t' hrun => ?_⟩
  obtain rfl := hexisted isThere t' hrun
  change Bool at isThere
  cases isThere with
  | true => exact .done _
  | false => exact follows_ask fun _ _ _ => .done _

/-- Storing follows the drafts one after the other. -/
theorem publish_follows (c : StorageClass) (drafts : List Draft) (s : σ) :
    Follows (drafts.flatMap (storing c)) ((publish c drafts).calls h s)
      ((publish c drafts).run h s).1 := by
  induction drafts generalizing s with
  | nil => exact .done ()
  | cons d rest ih =>
    cases d with
    | error e => exact .stopped e
    | ok entry =>
      rw [List.flatMap_cons, publish, Plan.ofExcept, Plan.bind_done_ok]
      refine follows_bind ?_ fun _ t _ => ih t
      rw [uploadBlob_eq]
      exact follows_ask fun _ _ _ => follows_ask fun _ _ _ => .done _

/-- Making sure of the bucket and storing drafts in it are followed one after the other. -/
theorem store_follows (t : Target) (drafts : List Draft) (r : α) (s : σ) :
    ∃ existed, Answers ((store t drafts r).calls h s) (.bucket .bucketExists) existed ∧
      Follows
        (ensuring t.region t.storageClass existed ++ drafts.flatMap (storing t.storageClass))
        ((store t drafts r).calls h s) ((store t drafts r).run h s).1 := by
  obtain ⟨existed, hanswers, hensure⟩ := ensureBucket_follows (h := h) t s
  refine ⟨existed, ?_, follows_bind hensure fun _ t' _ =>
    Plan.follows_bind_done (fun _ => r) (publish_follows t.storageClass drafts t')⟩
  have hasks : Asks (· ≠ .bucket .bucketExists)
      ((publish t.storageClass drafts).bind fun _ => (done (.ok r) : Plan α)) := by
    refine ((asks_publish _ (List.Subset.refl _)).mono ?_).bind fun _ => Plan.asks_done _
    rintro q hq rfl
    exact hq
  exact hanswers.bind fun _ t' _ => Plan.answers_of_asks hasks t' existed

/-- An output that is asked for is one text. -/
theorem output_follows (dir : Path) (name : String) (s : σ) :
    ∃ text : String, Answers ((output dir name).calls h s) (.output dir name) text ∧
      Follows [.ok (.output dir name)] ((output dir name).calls h s)
        ((output dir name).run h s).1 ∧
      ∀ text' t, (output dir name).run h s = (.ok text', t) → text' = text := by
  have hne : Nonempty (Call.Answer (.output dir name)) := ⟨""⟩
  exact Plan.call_follows (Call.output dir name) h s

end Sync

namespace MetadataSync

/-- The call for the gateway; behind nodes that cannot be read the upload ends. -/
def askingGateway (s : MetadataSync) (nodesText : String) : Except Error Sync.Call :=
  (Metadata.parseNodes nodesText).map fun _ => .output s.gatewayModule gatewayOutput

/-- The calls to the provisioning tool, given what it has for the nodes. -/
def asking (s : MetadataSync) (nodesText : String) : List (Except Error Sync.Call) :=
  [.ok (.output s.nodesModule nodesOutput), s.askingGateway nodesText]

/-- The metadata that the outputs of the provisioning tool amount to. -/
def collected (nodesText gatewayText : String) : Except Error Metadata :=
  (Metadata.parseNodes nodesText).map fun nodes => ⟨nodes, Metadata.parseGateway gatewayText⟩

/-- Behind the nodes the gateway is asked for, if those can be read. -/
theorem askGateway_follows (s : MetadataSync) (nodesText : String) (st : σ) :
    ∃ gatewayText,
      Answers ((Sync.askGateway s nodesText).calls h st) (.output s.gatewayModule gatewayOutput)
        gatewayText ∧
      Follows [s.askingGateway nodesText]
        ((Sync.askGateway s nodesText).calls h st) ((Sync.askGateway s nodesText).run h st).1 ∧
      ∀ m t, (Sync.askGateway s nodesText).run h st = (.ok m, t) →
        collected nodesText gatewayText = .ok m := by
  rw [Sync.askGateway, askingGateway]
  cases hnodes : Metadata.parseNodes nodesText with
  | error e =>
    refine ⟨"", by simp [Answers, Plan.ofExcept], .stopped e, fun m t hm => ?_⟩
    cases hm
  | ok nodes =>
    obtain ⟨gatewayText, hgateway, hfollows, htext⟩ :=
      Sync.output_follows (h := h) s.gatewayModule gatewayOutput st
    refine ⟨gatewayText, hgateway.bind fun _ _ _ => by simp [Answers],
      Plan.follows_bind_done
        (fun text : String => Metadata.mk nodes (Metadata.parseGateway text)) hfollows,
      fun m t hm => ?_⟩
    rw [Plan.ofExcept, Plan.bind_done_ok] at hm
    obtain ⟨text, t', hrun, hm⟩ := Plan.run_bind_eq_ok_iff.1 hm
    obtain rfl := htext text t' hrun
    rw [collected, hnodes]
    exact congrArg Except.ok (Except.ok.inj (Prod.mk.inj hm).1)

/-- The provisioning tool is asked for both outputs, and the metadata is what they amount to. -/
theorem collect_follows (s : MetadataSync) (st : σ) :
    ∃ nodesText gatewayText,
      Answers (s.collect.calls h st) (.output s.nodesModule nodesOutput) nodesText ∧
      Answers (s.collect.calls h st) (.output s.gatewayModule gatewayOutput) gatewayText ∧
      Follows (s.asking nodesText) (s.collect.calls h st) (s.collect.run h st).1 ∧
      ∀ m t, s.collect.run h st = (.ok m, t) → collected nodesText gatewayText = .ok m := by
  have hother : Sync.Call.output s.gatewayModule gatewayOutput ≠
      .output s.nodesModule nodesOutput := fun hcall =>
    absurd (Sync.Call.output.inj hcall).2 (by decide)
  obtain ⟨nodesText, hnodes, hnodesFollows, hnodesText⟩ :=
    Sync.output_follows (h := h) s.nodesModule nodesOutput st
  -- the second call is made in the state behind the first one, if it is made at all
  obtain ⟨gatewayText, hgateway, hgatewayFollows, hcollected⟩ :=
    askGateway_follows (h := h) s nodesText ((Sync.output s.nodesModule nodesOutput).run h st).2
  rw [Sync.collect_eq]
  refine ⟨nodesText, gatewayText, ?_, ?_, ?_, ?_⟩
  · have hasks (text : String) :
        Asks (· ≠ .output s.nodesModule nodesOutput) (Sync.askGateway s text) :=
      (Sync.asks_ofExcept _).bind fun _ => ⟨hother, fun _ => Plan.asks_done _⟩
    exact hnodes.bind fun text t _ => Plan.answers_of_asks (hasks text) t nodesText
  · have hasks : Asks (· ≠ .output s.gatewayModule gatewayOutput)
        (Sync.output s.nodesModule nodesOutput) := ⟨hother.symm, fun _ => Plan.asks_done _⟩
    refine (Plan.answers_of_asks hasks st gatewayText).bind fun text t hrun => ?_
    obtain rfl := hnodesText text t hrun
    rwa [hrun] at hgateway
  · refine follows_bind hnodesFollows fun text t hrun => ?_
    obtain rfl := hnodesText text t hrun
    rwa [hrun] at hgatewayFollows
  · intro m t hm
    obtain ⟨text, t', hrun, hm⟩ := Plan.run_bind_eq_ok_iff.1 hm
    obtain rfl := hnodesText text t' hrun
    rw [hrun] at hcollected
    exact hcollected m t hm

end MetadataSync

namespace Sync

theorem upload_commonVars_eq (s : CommonVarsSync) :
    s.upload = (readText s.source).bind fun text =>
      (Plan.ofExcept (Document.parse text)).bind fun d =>
        store s.target [draft (.ok s.key) d.toYaml] () := by
  have h := Upload.plan_eq (.commonVars s)
  simp only [Upload.prepare, Plan.bind_assoc, Plan.bind_done_ok] at h
  exact h

theorem upload_metadata_eq (s : MetadataSync) :
    s.upload = (readText s.source).bind fun text =>
      (Plan.ofExcept (Document.parse text)).bind fun d =>
        (Plan.ofExcept (d.property MetadataSync.workspaceField)).bind fun workspace =>
          s.collect.bind fun m =>
            store s.target
              [draft (BlobKey.workspaceFile workspace Document.commonVarsFile) d.toYaml,
                draft (BlobKey.workspaceFile workspace Metadata.fileName) m.toYaml] workspace := by
  have h := Upload.plan_eq (.metadata s)
  simp only [Upload.prepare, Plan.bind_assoc, Plan.bind_done_ok] at h
  exact h

/-- The calls of an upload of the common settings: one that loads the file, and then those that make
sure of the bucket and store the document. -/
theorem commonVars_follows (s : CommonVarsSync) (st : σ) :
    let answer := (h (.readFile s.source) st).1
    ∃ rest, s.upload.calls h st = ⟨.readFile s.source, answer⟩ :: rest ∧
      (∀ e, loaded s.source answer = .error e → rest = [] ∧ (s.upload.run h st).1 = .error e) ∧
      ∀ d, loaded s.source answer = .ok d →
        ∃ existed, Answers rest (.bucket .bucketExists) existed ∧
          Follows
            (ensuring s.target.region s.target.storageClass existed ++
              storing s.target.storageClass (draft (.ok s.key) d.toYaml))
            rest (s.upload.run h st).1 := by
  rw [upload_commonVars_eq]
  obtain ⟨rest, hcalls, herror, hok⟩ := load_course h s.source
    (fun d => store s.target [draft (.ok s.key) d.toYaml] ()) st
  refine ⟨rest, hcalls, herror, fun d hd => ?_⟩
  obtain ⟨t, rfl, hrun⟩ := hok d hd
  obtain ⟨existed, hanswers, hfollows⟩ :=
    store_follows (h := h) s.target [draft (.ok s.key) d.toYaml] () t
  refine ⟨existed, hanswers, ?_⟩
  rw [hrun]
  simpa using hfollows

/-- What a metadata upload stores, given what the provisioning tool answered. -/
def metadataDrafts (d : Document) (workspace nodesText gatewayText : String) : List Draft :=
  [draft (BlobKey.workspaceFile workspace Document.commonVarsFile) d.toYaml,
    draft (BlobKey.workspaceFile workspace Metadata.fileName)
      ((MetadataSync.collected nodesText gatewayText).bind Metadata.toYaml)]

/-- Once the workspace is known, the provisioning tool is asked and then the documents are
stored. -/
theorem collect_store_follows (s : MetadataSync) (d : Document) (workspace : String) (st : σ) :
    let plan := s.collect.bind fun m =>
      store s.target
        [draft (BlobKey.workspaceFile workspace Document.commonVarsFile) d.toYaml,
          draft (BlobKey.workspaceFile workspace Metadata.fileName) m.toYaml] workspace
    ∃ nodesText gatewayText existed,
      Answers (plan.calls h st) (.output s.nodesModule MetadataSync.nodesOutput) nodesText ∧
      Answers (plan.calls h st) (.output s.gatewayModule MetadataSync.gatewayOutput) gatewayText ∧
      Answers (plan.calls h st) (.bucket .bucketExists) existed ∧
      Follows
        (s.asking nodesText ++ (ensuring s.target.region s.target.storageClass existed ++
          (metadataDrafts d workspace nodesText gatewayText).flatMap
            (storing s.target.storageClass)))
        (plan.calls h st) (plan.run h st).1 := by
  obtain ⟨nodesText, gatewayText, hnodes, hgateway, hfollows, hcollected⟩ :=
    MetadataSync.collect_follows (h := h) s st
  -- what is stored is stored in the state behind the questions, if it comes to that
  obtain ⟨existed, hexisted, hstore⟩ := store_follows (h := h) s.target
    (metadataDrafts d workspace nodesText gatewayText) workspace (s.collect.run h st).2
  have hdrafts (m : Metadata) (t : σ) (hrun : s.collect.run h st = (.ok m, t)) :
      metadataDrafts d workspace nodesText gatewayText =
        [draft (BlobKey.workspaceFile workspace Document.commonVarsFile) d.toYaml,
          draft (BlobKey.workspaceFile workspace Metadata.fileName) m.toYaml] := by
    simp only [metadataDrafts, hcollected m t hrun, Except.bind]
  have houtput (drafts : List Draft) (dir : Path) (name : String) (t : σ) (text : String) :
      Answers ((store s.target drafts workspace).calls h t) (.output dir name) text := by
    have hasks : Asks (· ≠ .output dir name) (store s.target drafts workspace) := by
      refine (asks_store s.target drafts workspace).mono ?_
      rintro q (hq | hq) rfl <;> exact hq
    exact Plan.answers_of_asks hasks t text
  -- the provisioning tool is not asked again, nor is the bucket asked for before
  have hbucket : Answers (s.collect.calls h st) (.bucket .bucketExists) existed := by
    have hasks : Asks (· ≠ .bucket .bucketExists) s.collect := by
      refine (asks_collect s).mono ?_
      rintro q hq rfl
      exact hq
    exact Plan.answers_of_asks hasks st existed
  refine ⟨nodesText, gatewayText, existed, hnodes.bind fun _ t _ => houtput _ _ _ t _,
    hgateway.bind fun _ t _ => houtput _ _ _ t _, hbucket.bind fun m t hrun => ?_,
    follows_bind hfollows fun m t hrun => ?_⟩
  · rw [hdrafts m t hrun, hrun] at hexisted
    exact hexisted
  · rw [hdrafts m t hrun, hrun] at hstore
    rw [hdrafts m t hrun]
    exact hstore

/-- The calls of an upload of the metadata: one that loads the common settings, and then, if these
name a workspace, those that ask the provisioning tool, make sure of the bucket, and store the
common settings before the metadata. -/
theorem metadata_follows (s : MetadataSync) (st : σ) :
    let answer := (h (.readFile s.source) st).1
    ∃ rest, s.upload.calls h st = ⟨.readFile s.source, answer⟩ :: rest ∧
      (∀ e, loaded s.source answer = .error e → rest = [] ∧ (s.upload.run h st).1 = .error e) ∧
      ∀ d, loaded s.source answer = .ok d →
        (∀ e, d.property MetadataSync.workspaceField = .error e →
          rest = [] ∧ (s.upload.run h st).1 = .error e) ∧
        ∀ workspace, d.property MetadataSync.workspaceField = .ok workspace →
          ∃ nodesText gatewayText existed,
            Answers rest (.output s.nodesModule MetadataSync.nodesOutput) nodesText ∧
            Answers rest (.output s.gatewayModule MetadataSync.gatewayOutput) gatewayText ∧
            Answers rest (.bucket .bucketExists) existed ∧
            Follows
              (s.asking nodesText ++ (ensuring s.target.region s.target.storageClass existed ++
                (metadataDrafts d workspace nodesText gatewayText).flatMap
                  (storing s.target.storageClass)))
              rest (s.upload.run h st).1 := by
  rw [upload_metadata_eq]
  obtain ⟨rest, hcalls, herror, hok⟩ := load_course h s.source _ st
  refine ⟨rest, hcalls, herror, fun d hd => ?_⟩
  obtain ⟨t, rfl, hrun⟩ := hok d hd
  rw [hrun]
  refine ⟨fun e he => ?_, fun workspace hworkspace => ?_⟩
  · rw [he]
    exact ⟨rfl, rfl⟩
  · rw [hworkspace]
    exact collect_store_follows s d workspace t

/-- The calls of both uploads, for everything that the bucket and the provisioning tool may answer.
Behind the call that loads the file of common settings an upload follows its script: no call is made
behind one that fails, its error is the result, and the result is good exactly if the whole script
was gone through. Behind a call that succeeds the next one is made, unless the nodes cannot be read,
or a key or a text cannot be made; then that is the error. If the file cannot be loaded, or names no
workspace for the metadata, nothing else is asked for. -/
theorem uploads_follow (c : Settings) (executable : Path) (h : Handler Call Call.Answer σ)
    (st : σ) :
    (∀ s, CommonVarsSync.ofSettings c executable = .ok s →
      let answer := (h (.readFile s.source) st).1
      ∃ name rest, c.environmentName executable = .ok name ∧
        c.commonVarsPath executable = .ok s.source ∧
        s.upload.calls h st = ⟨.readFile s.source, answer⟩ :: rest ∧
        (∀ e, loaded s.source answer = .error e → rest = [] ∧ (s.upload.run h st).1 = .error e) ∧
        ∀ d, loaded s.source answer = .ok d →
          ∃ existed, Answers rest (.bucket .bucketExists) existed ∧
            Follows
              (ensuring c.region c.storageClass existed ++
                storing c.storageClass
                  (draft (BlobKey.workspaceFile name Document.commonVarsFile) d.toYaml))
              rest (s.upload.run h st).1) ∧
    ∀ s, MetadataSync.ofSettings c executable = .ok s →
      let answer := (h (.readFile s.source) st).1
      ∃ rest, c.environmentDir executable = .ok s.dir ∧
        c.commonVarsPath executable = .ok s.source ∧
        s.upload.calls h st = ⟨.readFile s.source, answer⟩ :: rest ∧
        (∀ e, loaded s.source answer = .error e → rest = [] ∧ (s.upload.run h st).1 = .error e) ∧
        ∀ d, loaded s.source answer = .ok d →
          (∀ e, d.property MetadataSync.workspaceField = .error e →
            rest = [] ∧ (s.upload.run h st).1 = .error e) ∧
          ∀ workspace, d.property MetadataSync.workspaceField = .ok workspace →
            ∃ nodesText gatewayText existed,
              Answers rest (.output s.nodesModule MetadataSync.nodesOutput) nodesText ∧
              Answers rest (.output s.gatewayModule MetadataSync.gatewayOutput) gatewayText ∧
              Answers rest (.bucket .bucketExists) existed ∧
              Follows
                ([.ok (.output s.nodesModule MetadataSync.nodesOutput),
                    (Metadata.parseNodes nodesText).map fun _ =>
                      .output s.gatewayModule MetadataSync.gatewayOutput] ++
                  ensuring c.region c.storageClass existed ++
                  storing c.storageClass
                    (draft (BlobKey.workspaceFile workspace Document.commonVarsFile) d.toYaml) ++
                  storing c.storageClass
                    (draft (BlobKey.workspaceFile workspace Metadata.fileName)
                      ((MetadataSync.collected nodesText gatewayText).bind Metadata.toYaml)))
                rest (s.upload.run h st).1 := by
  constructor
  · intro s hs
    obtain ⟨htarget, hsource, dir, name, -, hname, hkey, -⟩ := ofSettings_commonVars hs
    obtain ⟨rest, hcalls, herror, hok⟩ := commonVars_follows (h := h) s st
    refine ⟨name, rest, hname, hsource, hcalls, herror, fun d hd => ?_⟩
    rw [hkey]
    rw [htarget] at hok
    exact hok d hd
  · intro s hs
    obtain ⟨htarget, hsource, hdir⟩ := ofSettings_metadata hs
    obtain ⟨rest, hcalls, herror, hok⟩ := metadata_follows (h := h) s st
    refine ⟨rest, hdir, hsource, hcalls, herror, fun d hd => ⟨(hok d hd).1, ?_⟩⟩
    intro workspace hworkspace
    rw [htarget] at hok
    simpa [metadataDrafts, MetadataSync.asking, MetadataSync.askingGateway, Target.ofSettings] using
      (hok d hd).2 workspace hworkspace

/-- In the small world both uploads go through their scripts. -/
theorem uploads_follow_sample :
    (CommonVarsSync.ofSettings World.sampleSettings ⟨"/tool"⟩ = .ok sampleCommonVars ∧
      ∃ name rest existed,
        sampleCommonVars.upload.calls World.perform World.sample =
          ⟨.readFile sampleCommonVars.source, .ok (Bytes.ofText World.sampleText)⟩ :: rest ∧
        Answers rest (.bucket .bucketExists) existed ∧
        Follows
          (ensuring "me-west1" .nearline existed ++
            storing .nearline
              (draft (BlobKey.workspaceFile name Document.commonVarsFile)
                (.ok World.sampleText)))
          rest (sampleCommonVars.upload.run World.perform World.sample).1) ∧
    MetadataSync.ofSettings World.sampleSettings ⟨"/tool"⟩ = .ok sampleMetadata ∧
      ∃ rest nodesText gatewayText existed,
        sampleMetadata.upload.calls World.perform World.sample =
          ⟨.readFile sampleMetadata.source, .ok (Bytes.ofText World.sampleText)⟩ :: rest ∧
        Follows
          ([.ok (.output sampleMetadata.nodesModule MetadataSync.nodesOutput),
              (Metadata.parseNodes nodesText).map fun _ =>
                .output sampleMetadata.gatewayModule MetadataSync.gatewayOutput] ++
            ensuring "me-west1" .nearline existed ++
            storing .nearline
              (draft (BlobKey.workspaceFile "dev" Document.commonVarsFile)
                (.ok World.sampleText)) ++
            storing .nearline
              (draft (BlobKey.workspaceFile "dev" Metadata.fileName)
                ((MetadataSync.collected nodesText gatewayText).bind Metadata.toYaml)))
          rest (sampleMetadata.upload.run World.perform World.sample).1 := by
  have hload : loaded sampleCommonVars.source
      (World.perform (.readFile sampleCommonVars.source) World.sample).1 =
        .ok World.sampleDocument := by decide +kernel
  have hworkspace : World.sampleDocument.property MetadataSync.workspaceField = .ok "dev" := by
    decide +kernel
  obtain ⟨hcommon, hmetadata⟩ :=
    uploads_follow World.sampleSettings ⟨"/tool"⟩ World.perform World.sample
  constructor
  · obtain ⟨name, rest, -, -, hcalls, -, hok⟩ := hcommon _ ofSettings_sampleCommonVars
    obtain ⟨existed, hanswers, hfollows⟩ := hok World.sampleDocument hload
    rw [World.toYaml_sampleDocument] at hfollows
    exact ⟨ofSettings_sampleCommonVars, name, rest, existed, hcalls, hanswers, hfollows⟩
  · obtain ⟨rest, -, -, hcalls, -, hok⟩ := hmetadata _ ofSettings_sampleMetadata
    obtain ⟨nodesText, gatewayText, existed, -, -, -, hfollows⟩ :=
      (hok World.sampleDocument hload).2 "dev" hworkspace
    rw [World.toYaml_sampleDocument] at hfollows
    exact ⟨ofSettings_sampleMetadata, rest, nodesText, gatewayText, existed, hcalls, hfollows⟩

end Sync

end DeploySync
