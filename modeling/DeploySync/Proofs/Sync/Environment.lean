import DeploySync.Proofs.BlobKey
import DeploySync.Proofs.Document
import DeploySync.Proofs.Sync.Upload

/-!
# What is published is exported

The common settings and the metadata that are published for a workspace are what its properties are
computed from later. An upload and an export meet in `Sync.Published`: the one leaves it in the
bucket, nothing in between changes it, and the other reads it.

## Main definitions

* `MetadataSync.exportedFields` — the fields of the common settings that are exported
* `Sync.Published` — both documents are in the bucket

## Main results

* `MetadataSync.properties_of_forall`, `MetadataSync.forall_of_properties`,
  `MetadataSync.properties_of_not` — when there are properties
* `Sync.run_upload_metadata` — an upload publishes the two documents
* `Sync.upload_setEnv` — the properties are those of the documents that were uploaded
-/

namespace DeploySync

open Plan (done)

namespace MetadataSync

variable {d : Document} {m : Metadata}

/-- The fields of the common settings that are exported, in order. -/
def exportedFields : List String := ["storage.provider", "k8s.abs.version", "asdb.version"]

/-- The properties of a workspace, given the values of the exported fields. -/
def exported (m : Metadata) (provider backup database : String) : Properties :=
  ⟨[("ASDB_IPS", Literal.listText m.nodes), ("GW_IP", m.gateway), ("STORAGE_PROVIDER", provider),
    ("ABS_VERSION", backup), ("ASDB_VERSION", database)]⟩

/-- The file of these properties has one line for each of them. -/
theorem render_exported (m : Metadata) (provider backup database : String) :
    (exported m provider backup database).render =
      String.join
        ["ASDB_IPS=" ++ Literal.listText m.nodes ++ "\n", "GW_IP=" ++ m.gateway ++ "\n",
          "STORAGE_PROVIDER=" ++ provider ++ "\n", "ABS_VERSION=" ++ backup ++ "\n",
          "ASDB_VERSION=" ++ database ++ "\n"] := rfl

/-- The properties are there once the three fields have values. -/
theorem properties_of_forall (m : Metadata) (h : ∀ field ∈ exportedFields, d.HasProperty field) :
    ∃ provider backup database, d.property "storage.provider" = .ok provider ∧
      d.property "k8s.abs.version" = .ok backup ∧ d.property "asdb.version" = .ok database ∧
      properties d m = .ok (exported m provider backup database) := by
  obtain ⟨provider, hprovider⟩ := (h "storage.provider" (by simp [exportedFields])).property
  obtain ⟨backup, hbackup⟩ := (h "k8s.abs.version" (by simp [exportedFields])).property
  obtain ⟨database, hdatabase⟩ := (h "asdb.version" (by simp [exportedFields])).property
  refine ⟨provider, backup, database, hprovider, hbackup, hdatabase, ?_⟩
  rw [properties, hprovider, hbackup, hdatabase]
  simp [bind, Except.bind, pure, Except.pure, exported, Properties.ofList, Properties.insert,
    Table.put]

/-- The fields are read one after the other. -/
theorem properties_of_mapM_error {e : Error} (h : exportedFields.mapM d.property = .error e) :
    properties d m = .error e := by
  simp only [exportedFields, List.mapM_cons, List.mapM_nil, bind, Except.bind] at h
  simp only [properties, bind, Except.bind]
  cases hprovider : d.property "storage.provider" with
  | error e' =>
    rw [hprovider] at h
    exact congrArg Except.error (Except.error.inj h)
  | ok provider =>
    cases hbackup : d.property "k8s.abs.version" with
    | error e' =>
      rw [hprovider, hbackup] at h
      exact congrArg Except.error (Except.error.inj h)
    | ok backup =>
      cases hdatabase : d.property "asdb.version" with
      | error e' =>
        rw [hprovider, hbackup, hdatabase] at h
        exact congrArg Except.error (Except.error.inj h)
      | ok database =>
        rw [hprovider, hbackup, hdatabase] at h
        cases h

/-- There are properties only if the three fields have values. -/
theorem forall_of_properties {p : Properties} (h : properties d m = .ok p) :
    ∀ field ∈ exportedFields, d.HasProperty field := by
  cases hmapM : exportedFields.mapM d.property with
  | error e =>
    rw [properties_of_mapM_error hmapM] at h
    cases h
  | ok texts => exact Document.forall_hasProperty_of_mapM hmapM

/-- The first exported field that has no value is named in the error. -/
theorem properties_of_not {before after : List String} {field : String}
    (hfields : exportedFields = before ++ field :: after)
    (hbefore : ∀ f ∈ before, d.HasProperty f) (hfield : ¬ d.HasProperty field) :
    properties d m = .error (.missingField (d.missing field)) := by
  refine properties_of_mapM_error ?_
  rw [hfields]
  exact Document.mapM_property_of_not hbefore hfield

end MetadataSync

namespace Sync

variable {w w' : World} {b b' : MemoryBucket} {s : MetadataSync} {d : Document} {m : Metadata}
variable {workspace : String} {keys : BlobKey × BlobKey}

/-- The common settings and the metadata of a workspace are in the bucket, each under its key. -/
structure Published (b : MemoryBucket) (workspace : String) (d : Document) (m : Metadata)
    (keys : BlobKey × BlobKey) : Prop where
  commonKey : BlobKey.workspaceFile workspace Document.commonVarsFile = .ok keys.1
  metadataKey : BlobKey.workspaceFile workspace Metadata.fileName = .ok keys.2
  commonVars : ∃ text, d.toYaml = .ok text ∧ b.blob? keys.1 = some (Bytes.ofText text)
  metadata : ∃ text, m.toYaml = .ok text ∧ b.blob? keys.2 = some (Bytes.ofText text)

/-- What is published stays published while nothing is uploaded under the two keys. -/
theorem Published.congr (h : Published b workspace d m keys)
    (hblobs : ∀ k ∈ [keys.1, keys.2], b'.blob? k = b.blob? k) :
    Published b' workspace d m keys where
  commonKey := h.commonKey
  metadataKey := h.metadataKey
  commonVars := by
    rw [hblobs keys.1 (by simp)]
    exact h.commonVars
  metadata := by
    rw [hblobs keys.2 (by simp)]
    exact h.metadata

/-- An upload that succeeds gives the workspace that the common settings name, and publishes them
and the metadata for it. -/
theorem run_upload_metadata (hw : w.Holds b) (hd : document w s.source = .ok d)
    (hm : (w.run s.collect).1 = .ok m) (hok : (w.run s.upload).1 = .ok workspace) :
    d.property MetadataSync.workspaceField = .ok workspace ∧
      ∃ w' b' keys, w.run s.upload = (.ok workspace, w') ∧ Carries w w' b' ∧
        Published b' workspace d m keys := by
  obtain ⟨texts, hread⟩ := Upload.exists_texts (u := .metadata s) hok
  have hprepare := (Upload.run_prepare_metadata hd hm).symm.trans hread
  cases hworkspace : d.property MetadataSync.workspaceField with
  | error e =>
    rw [hworkspace] at hprepare
    cases hprepare
  | ok workspace' =>
    rw [hworkspace] at hprepare
    obtain ⟨htexts, rfl⟩ := Prod.mk.inj (Except.ok.inj hprepare)
    -- what was read are two texts with their keys, and the keys are different
    obtain ⟨common, rest, rfl, hcommon, hrest⟩ := List.map_eq_cons_iff.1 htexts.symm
    obtain ⟨metadata, rfl, hmetadata⟩ := List.map_eq_singleton_iff.1 hrest
    obtain ⟨hcommonKey, hcommonText⟩ := draft_eq_ok_iff.1 hcommon.symm
    obtain ⟨hmetadataKey, hmetadataText⟩ := draft_eq_ok_iff.1 hmetadata.symm
    have hne : common.1 ≠ metadata.1 :=
      BlobKey.workspaceFile_ne hcommonKey hmetadataKey (by decide +kernel)
    have hnodup : ([common, metadata].map (·.1)).Nodup := by simp [hne]
    obtain ⟨w', hrun, hw'⟩ := Upload.run_plan hw hread (.refl hw)
    refine ⟨rfl, w', _, (common.1, metadata.1), hrun, hw', hcommonKey, hmetadataKey,
      ⟨common.2, hcommonText, ?_⟩, ⟨metadata.2, hmetadataText, ?_⟩⟩
    · exact MemoryBucket.blob?_storing_of_mem hnodup (by simp)
    · exact MemoryBucket.blob?_storing_of_mem hnodup (by simp)

section Export

variable (hw : w.Holds b) (hpublished : Published b workspace d m keys)
variable (hround : (d.toYaml.bind fun text => Document.ofBytes (Bytes.ofText text)) = .ok d)
variable (hround' : (m.toYaml.bind fun text => Metadata.ofBytes (Bytes.ofText text)) = .ok m)
include hw hpublished hround hround'

/-- What is read back is what was published, and from it the properties are computed and written. -/
theorem run_setEnv :
    ∃ w', Carries w w' b ∧
      w.run (s.setEnv workspace) =
        w'.run ((Plan.ofExcept (MetadataSync.properties d m)).bind fun p =>
          (writeFile s.propertiesPath (Bytes.ofText p.render)).bind fun _ => done (.ok p)) := by
  -- the two blobs hold the texts of the two documents
  obtain ⟨commonText, hcommonText, hcommon⟩ := hpublished.commonVars
  obtain ⟨metadataText, hmetadataText, hmetadata⟩ := hpublished.metadata
  have hd : Document.ofBytes (Bytes.ofText commonText) = .ok d := by
    rwa [hcommonText] at hround
  have hm : Metadata.ofBytes (Bytes.ofText metadataText) = .ok m := by
    rwa [hmetadataText] at hround'
  obtain ⟨w₁, hfirst, hw₁⟩ :=
    run_fetchRequired (.refl hw) hcommon s.target.bucket Document.commonVarsFile
  obtain ⟨w₂, hsecond, hw₂⟩ :=
    run_fetchRequired hw₁ hmetadata s.target.bucket Metadata.fileName
  refine ⟨w₂, hw₂, ?_⟩
  simp only [MetadataSync.setEnv, Plan.bind_eq, Plan.pure_eq, hpublished.commonKey,
    hpublished.metadataKey]
  refine (Plan.run_bind_ok hfirst _).trans ?_
  rw [hd]
  refine (Plan.run_bind_ok hsecond _).trans ?_
  rw [hm]
  rfl

/-- Properties that can be computed are written over a file that can be written. -/
theorem run_setEnv_ok {p : Properties} (hp : MetadataSync.properties d m = .ok p)
    (hwritable : w.files.Writable s.propertiesPath) :
    (w.run (s.setEnv workspace)).1 = .ok p ∧
      (w.run (s.setEnv workspace)).2.files.read s.propertiesPath =
        .ok (Bytes.ofText p.render) := by
  obtain ⟨w', hw', hrun⟩ := run_setEnv (s := s) hw hpublished hround hround'
  rw [← hw'.files] at hwritable
  obtain ⟨place, name, hplace, hwrite⟩ :=
    World.perform_writeFile_ok hwritable (Bytes.ofText p.render)
  rw [hp, Plan.ofExcept, Plan.bind_done_ok] at hrun
  rw [hrun.trans (Plan.run_ask_ok hwrite)]
  exact ⟨rfl, hplace.read_withFile _⟩

/-- Properties that cannot be computed are not written. -/
theorem run_setEnv_error {e : Error} (he : MetadataSync.properties d m = .error e) :
    (w.run (s.setEnv workspace)).1 = .error e ∧
      (w.run (s.setEnv workspace)).2.files = w.files := by
  obtain ⟨w', hw', hrun⟩ := run_setEnv (s := s) hw hpublished hround hround'
  rw [he] at hrun
  rw [hrun]
  exact ⟨rfl, hw'.files⟩

/-- Properties are written only if the three fields have values. -/
theorem forall_of_run_setEnv (hisOk : (w.run (s.setEnv workspace)).1.isOk) :
    ∀ field ∈ MetadataSync.exportedFields, d.HasProperty field := by
  cases hp : MetadataSync.properties d m with
  | error e =>
    rw [(run_setEnv_error (s := s) hw hpublished hround hround' hp).1] at hisOk
    cases hisOk
  | ok p => exact MetadataSync.forall_of_properties hp

end Export

/-- The metadata are uploaded, and later the properties of the workspace are written; in between
nothing is uploaded under the keys of the workspace. The workspace is the one that the local common
settings name, and the properties are computed from these and from what the provisioning tool said.
They are written if each of the three fields is there and is no mapping; otherwise the first one
that is not is named in the error, and no file is changed. -/
theorem upload_setEnv {nodesText gatewayText : String} {nodes : List String} (hw : w.Holds b)
    (hd : document w s.source = .ok d)
    (hnodes : w.outputs.lookup MetadataSync.nodesOutput = some nodesText)
    (hgateway : w.outputs.lookup MetadataSync.gatewayOutput = some gatewayText)
    (hparse : Metadata.parseNodes nodesText = .ok nodes)
    (hm : m = ⟨nodes, Metadata.parseGateway gatewayText⟩)
    (hok : (w.run s.upload).1 = .ok workspace)
    (hround : (d.toYaml.bind fun text => Document.ofBytes (Bytes.ofText text)) = .ok d)
    (hround' : (m.toYaml.bind fun text => Metadata.ofBytes (Bytes.ofText text)) = .ok m)
    (later : List World.Turn)
    (hlater : ∀ file ∈ [Document.commonVarsFile, Metadata.fileName], ∀ key,
      BlobKey.workspaceFile workspace file = .ok key →
        ¬ World.Uploaded (World.shown later (w.run s.upload).2) key)
    (hwritable : w.files.Writable s.propertiesPath) :
    let w₁ := World.after later (w.run s.upload).2
    let result := (w₁.run (s.setEnv workspace)).1
    let w₂ := (w₁.run (s.setEnv workspace)).2
    d.property MetadataSync.workspaceField = .ok workspace ∧
      (result.isOk ↔ ∀ field ∈ MetadataSync.exportedFields, d.HasProperty field) ∧
      (result.isOk → ∃ provider backup database,
        d.property "storage.provider" = .ok provider ∧
        d.property "k8s.abs.version" = .ok backup ∧
        d.property "asdb.version" = .ok database ∧
        w₂.files.read s.propertiesPath = .ok (Bytes.ofText (String.join
          ["ASDB_IPS=" ++ Literal.listText nodes ++ "\n",
            "GW_IP=" ++ Metadata.parseGateway gatewayText ++ "\n",
            "STORAGE_PROVIDER=" ++ provider ++ "\n",
            "ABS_VERSION=" ++ backup ++ "\n",
            "ASDB_VERSION=" ++ database ++ "\n"]))) ∧
      ∀ before field after, MetadataSync.exportedFields = before ++ field :: after →
        (∀ f ∈ before, d.HasProperty f) → ¬ d.HasProperty field →
          result = .error (.missingField (d.missing field)) ∧ w₂.files = w₁.files := by
  have hcollect : (w.run s.collect).1 = .ok m := by
    rw [hm]
    exact run_collect hw hnodes hgateway hparse
  obtain ⟨hworkspace, w', b', keys, hrun, hw', hpublished⟩ :=
    run_upload_metadata hw hd hcollect hok
  rw [hrun] at hlater ⊢
  -- what is done in between
  have hkept : World.Later [keys.1, keys.2] w' (World.after later w') := by
    refine World.later_after later hw'.holds fun k hk => ?_
    rcases List.mem_cons.1 hk with rfl | hk
    · exact hlater _ (by simp) _ hpublished.commonKey
    · rw [List.mem_singleton.1 hk]
      exact hlater _ (by simp) _ hpublished.metadataKey
  obtain ⟨b₁, hw₁, hblobs, -⟩ := hkept.bucket b' hw'.holds
  have hpublished₁ := hpublished.congr hblobs
  have hwritable₁ : (World.after later w').files.Writable s.propertiesPath := by
    refine hkept.writable ?_
    rwa [hw'.files]
  -- the export
  have hforall := forall_of_run_setEnv (s := s) hw₁ hpublished₁ hround hround'
  refine ⟨hworkspace, ⟨hforall, fun hall => ?_⟩, fun hisOk => ?_, ?_⟩
  · obtain ⟨provider, backup, database, -, -, -, hp⟩ :=
      MetadataSync.properties_of_forall m hall
    dsimp only
    rw [(run_setEnv_ok hw₁ hpublished₁ hround hround' hp hwritable₁).1]
    rfl
  · obtain ⟨provider, backup, database, hprovider, hbackup, hdatabase, hp⟩ :=
      MetadataSync.properties_of_forall m (hforall hisOk)
    refine ⟨provider, backup, database, hprovider, hbackup, hdatabase, ?_⟩
    have hwritten := (run_setEnv_ok hw₁ hpublished₁ hround hround' hp hwritable₁).2
    rw [MetadataSync.render_exported, hm] at hwritten
    exact hwritten
  · intro before field after hfields hbefore hfield
    exact run_setEnv_error hw₁ hpublished₁ hround hround'
      (MetadataSync.properties_of_not hfields hbefore hfield)

theorem isFileName_propertiesFile : Files.IsFileName Properties.fileName where
  slash := by decide
  notTrivial := by decide
  zero := by decide
  notUp := by decide
  fits := by decide

/-- In the small world all three fields are there, and the copy of the common settings is downloaded
in between. -/
theorem upload_setEnv_sample :
    let w := World.sample
    let s := sampleMetadata
    let later : List World.Turn := [⟨World.faultless, Bool, sampleCommonVars.download⟩]
    let w₁ := World.after later (w.run s.upload).2
    (w.run s.upload).1 = .ok "dev" ∧ (w₁.run (s.setEnv "dev")).1.isOk ∧
      (w₁.run (s.setEnv "dev")).2.files.read s.propertiesPath =
        .ok (Bytes.ofText (String.join
          ["ASDB_IPS=['10.0.0.1']\n", "GW_IP=10.0.0.9\n", "STORAGE_PROVIDER=nfs\n",
            "ABS_VERSION=7\n", "ASDB_VERSION=6.4.0\n"])) := by
  intro w s later w₁
  have hd : document w s.source = .ok World.sampleDocument := by decide +kernel
  have hok : (w.run s.upload).1 = .ok "dev" := by decide +kernel
  have hparse : Metadata.parseNodes "[\"10.0.0.1\"]" = .ok ["10.0.0.1"] := by decide +kernel
  have hround : (World.sampleDocument.toYaml.bind fun text =>
      Document.ofBytes (Bytes.ofText text)) = .ok World.sampleDocument := by decide +kernel
  have hround' : ((Metadata.mk ["10.0.0.1"] (Metadata.parseGateway "\"10.0.0.9\"")).toYaml.bind
      fun text => Metadata.ofBytes (Bytes.ofText text)) =
        .ok ⟨["10.0.0.1"], Metadata.parseGateway "\"10.0.0.9\""⟩ := by decide +kernel
  have hwritable : w.files.Writable s.propertiesPath :=
    (Files.writable_join_iff (by decide +kernel) isFileName_propertiesFile).2
      ⟨by decide +kernel, by decide +kernel⟩
  have hlater (key : BlobKey) : ¬ World.Uploaded (World.shown later (w.run s.upload).2) key := by
    refine World.not_uploaded_of_asks (fun turn hturn => ?_) _
    rw [List.mem_singleton.1 hturn]
    exact asks_downloadIfExists.mono fun q hq => hq key
  obtain ⟨-, hisOk, hwritten, -⟩ :=
    upload_setEnv (s := s) (d := World.sampleDocument) World.sample_holds hd rfl rfl
      hparse rfl hok hround hround' later (fun _ _ key _ => hlater key) hwritable
  have hall : ∀ field ∈ MetadataSync.exportedFields, World.sampleDocument.HasProperty field := by
    intro field hfield
    rw [← Document.isOk_property_iff]
    revert field
    decide +kernel
  obtain ⟨provider, backup, database, hprovider, hbackup, hdatabase, hread⟩ :=
    hwritten (hisOk.2 hall)
  have hvalues : (World.sampleDocument.property "storage.provider",
      World.sampleDocument.property "k8s.abs.version",
      World.sampleDocument.property "asdb.version") = (.ok "nfs", .ok "7", .ok "6.4.0") := by
    decide +kernel
  rw [hprovider, hbackup, hdatabase] at hvalues
  simp only [Prod.mk.injEq, Except.ok.injEq] at hvalues
  obtain ⟨rfl, rfl, rfl⟩ := hvalues
  exact ⟨hok, hisOk.2 hall, hread⟩

end Sync

end DeploySync
