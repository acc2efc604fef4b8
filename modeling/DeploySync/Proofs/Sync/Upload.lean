import DeploySync.Proofs.Sync.Loading

/-!
# Uploads

Both uploads of the library read their inputs first, then make sure that the bucket is there, and
then store one text after the other. What they read does not depend on the bucket, and what they
store in it depends on nothing but what they read.

## Main definitions

* `Sync.Upload` — the two uploads
* `Sync.Draft` — a text with its key, or why there is none
* `Sync.Upload.prepare` — the part that reads
* `Sync.publish` — the part that stores

## Main results

* `Sync.Upload.plan_eq` — an upload is made of these parts
* `Sync.run_publish` — what storing does to a bucket in memory
* `Sync.Upload.run_plan` — what an upload does to a bucket in memory
-/

namespace DeploySync.Sync

open DeploySync.Plan (done Handler)

variable {σ α : Type} {w w' : World} {b b' : MemoryBucket}

/-- A text that is to be stored under a key, or why there is none. -/
abbrev Draft := Except Error (BlobKey × String)

/-- The draft of a text; without a key the text does not matter. -/
def draft (key : Except Error BlobKey) (text : Except Error String) : Draft :=
  key.bind fun key => text.map fun text => (key, text)

/-- Stores drafts one after the other, all in one storage class. -/
def publish (c : StorageClass) : List Draft → Plan Unit
  | [] => done (.ok ())
  | d :: rest =>
    (Plan.ofExcept d).bind fun entry =>
      (uploadBlob entry.1 entry.2 c).bind fun _ => publish c rest

/-- Makes sure that the bucket is there, and stores drafts in it; the result is given. -/
def store (t : Target) (drafts : List Draft) (r : α) : Plan α :=
  (ensureBucket t).bind fun _ => (publish t.storageClass drafts).bind fun _ => done (.ok r)

/-- An upload: of the common settings of an environment, or of what is published for a
workspace. -/
inductive Upload where
  | commonVars (s : CommonVarsSync)
  | metadata (s : MetadataSync)

namespace Upload

/-- The type of the result. -/
def Result : Upload → Type
  | .commonVars _ => Unit
  | .metadata _ => String

/-- The plan of the upload. -/
def plan : (u : Upload) → Sync.Plan u.Result
  | .commonVars s => s.upload
  | .metadata s => s.upload

/-- The bucket, and how it is created. -/
def target : Upload → Target
  | .commonVars s => s.target
  | .metadata s => s.target

/-- Reads what is to be stored; gives the drafts, and the result of the upload. -/
def prepare : (u : Upload) → Sync.Plan (List Draft × u.Result)
  | .commonVars s =>
    (readText s.source).bind fun text =>
      (Plan.ofExcept (Document.parse text)).bind fun document =>
        done (.ok ([draft (.ok s.key) document.toYaml], ()))
  | .metadata s =>
    (readText s.source).bind fun text =>
      (Plan.ofExcept (Document.parse text)).bind fun document =>
        (Plan.ofExcept (document.property MetadataSync.workspaceField)).bind
          fun workspace => s.collect.bind fun metadata =>
            done (.ok
              ([draft (BlobKey.workspaceFile workspace Document.commonVarsFile) document.toYaml,
                draft (BlobKey.workspaceFile workspace Metadata.fileName) metadata.toYaml],
                workspace))

end Upload

/-- A draft that is stored is a key, and then a text. -/
theorem ofExcept_draft_bind (key : Except Error BlobKey) (text : Except Error String)
    (next : BlobKey × String → Plan α) :
    (Plan.ofExcept (draft key text)).bind next =
      (Plan.ofExcept key).bind fun key =>
        (Plan.ofExcept text).bind fun text => next (key, text) := by
  cases key with
  | error e => rfl
  | ok key => cases text <;> rfl

theorem draft_eq_ok_iff {key : Except Error BlobKey} {text : Except Error String}
    {entry : BlobKey × String} :
    draft key text = .ok entry ↔ key = .ok entry.1 ∧ text = .ok entry.2 := by
  rw [draft]
  cases key with
  | error e => simp [Except.bind]
  | ok k =>
    cases text with
    | error e => simp [Except.bind, Except.map]
    | ok t => simp [Except.bind, Except.map, Prod.ext_iff]

/-- An upload reads, and then it stores what it read. -/
theorem Upload.plan_eq (u : Upload) :
    u.plan = u.prepare.bind fun read => store u.target read.1 read.2 := by
  cases u with
  | commonVars s =>
    have hlast (yaml : String) :
        (uploadBlob s.key yaml s.target.storageClass).bind (fun _ => done (.ok ())) =
          uploadBlob s.key yaml s.target.storageClass := Plan.bind_done _
    simp only [plan, CommonVarsSync.upload, prepare, target, Plan.bind_eq,
      Plan.bind_assoc, Plan.bind_done_ok, store, publish, ofExcept_draft_bind]
    refine congrArg _ (funext fun text => congrArg _ (funext fun document => ?_))
    exact congrArg _ (funext fun _ => congrArg _ (funext fun yaml => (hlast yaml).symm))
  | metadata s =>
    simp only [plan, MetadataSync.upload, prepare, target, Plan.bind_eq,
      Plan.pure_eq, Plan.bind_assoc, Plan.bind_done_ok, store,
      publish, ofExcept_draft_bind]
    rfl

/-- What the settings say of the synchronization of the common settings. -/
theorem ofSettings_commonVars {c : Settings} {executable : Path} {s : CommonVarsSync}
    (hs : CommonVarsSync.ofSettings c executable = .ok s) :
    s.target = .ofSettings c ∧ c.commonVarsPath executable = .ok s.source ∧
      ∃ dir name, c.environmentDir executable = .ok dir ∧ c.environmentName executable = .ok name ∧
        BlobKey.workspaceFile name Document.commonVarsFile = .ok s.key ∧
        s.destination = dir.join Document.commonVarsFile := by
  simp only [CommonVarsSync.ofSettings, bind, Except.bind] at hs
  cases hdir : c.environmentDir executable with
  | error e => simp [hdir] at hs
  | ok dir =>
    cases hname : c.environmentName executable with
    | error e => simp [hdir, hname] at hs
    | ok name =>
      cases hkey : BlobKey.workspaceFile name Document.commonVarsFile with
      | error e => simp [hdir, hname, hkey] at hs
      | ok key =>
        cases hsource : c.commonVarsPath executable with
        | error e => simp [hdir, hname, hkey, hsource] at hs
        | ok source =>
          simp only [hdir, hname, hkey, hsource, pure, Except.pure, Except.ok.injEq] at hs
          subst hs
          exact ⟨rfl, rfl, dir, name, rfl, rfl, hkey, rfl⟩

/-- What the settings say of the synchronization of the metadata. -/
theorem ofSettings_metadata {c : Settings} {executable : Path} {s : MetadataSync}
    (hs : MetadataSync.ofSettings c executable = .ok s) :
    s.target = .ofSettings c ∧ c.commonVarsPath executable = .ok s.source ∧
      c.environmentDir executable = .ok s.dir := by
  simp only [MetadataSync.ofSettings, bind, Except.bind] at hs
  cases hdir : c.environmentDir executable with
  | error e => simp [hdir] at hs
  | ok dir =>
    cases hsource : c.commonVarsPath executable with
    | error e => simp [hdir, hsource] at hs
    | ok source =>
      simp only [hdir, hsource, pure, Except.pure, Except.ok.injEq] at hs
      subst hs
      exact ⟨rfl, rfl, rfl⟩

/-- The synchronization of the common settings in the small world. -/
def sampleCommonVars : CommonVarsSync where
  target := .ofSettings World.sampleSettings
  key := ⟨"stage/common_vars.yaml".toList⟩
  source := ⟨"/stage/common_vars.yaml"⟩
  destination := ⟨"/stage/common_vars.yaml"⟩

theorem ofSettings_sampleCommonVars :
    CommonVarsSync.ofSettings World.sampleSettings ⟨"/tool"⟩ = .ok sampleCommonVars := by
  decide +kernel

/-- The synchronization of the metadata in the small world. -/
def sampleMetadata : MetadataSync where
  target := .ofSettings World.sampleSettings
  dir := ⟨"/stage"⟩
  source := ⟨"/stage/common_vars.yaml"⟩

theorem ofSettings_sampleMetadata :
    MetadataSync.ofSettings World.sampleSettings ⟨"/tool"⟩ = .ok sampleMetadata := by
  decide +kernel

/-! ### Reading -/

/-- Reading makes no other calls. -/
theorem Upload.asks_prepare (u : Upload) : Plan.Asks IsReading u.prepare := by
  cases u with
  | commonVars s =>
    refine (asks_readText trivial).bind fun text => ?_
    refine (asks_ofExcept (Document.parse text)).bind fun document => ?_
    exact Plan.asks_done _
  | metadata s =>
    refine (asks_readText trivial).bind fun text => ?_
    refine (asks_ofExcept (Document.parse text)).bind fun document => ?_
    refine (asks_ofExcept (document.property _)).bind fun workspace => ?_
    exact (asks_collect s).bind fun metadata => Plan.asks_done _

namespace Upload

/-- An upload of the common settings stores the document of its file. -/
theorem run_prepare_commonVars {s : CommonVarsSync} {d : Document} {yaml : String}
    (hd : document w s.source = .ok d) (hyaml : d.toYaml = .ok yaml) :
    (w.run (prepare (.commonVars s))).1 = .ok ([(s.key, yaml)].map .ok, ()) := by
  have hrun := (load_ok (h := World.perform) (s := w) rfl hd fun d =>
    (done (.ok ([draft (.ok s.key) d.toYaml], ())) : Plan (List Draft × Unit))).2
  refine (congrArg Prod.fst hrun).trans ?_
  rw [hyaml]
  rfl

/-- An upload of the metadata stores the document of its file, and the metadata that the
provisioning tool knows. -/
theorem run_prepare_metadata {s : MetadataSync} {d : Document} {m : Metadata}
    (hd : document w s.source = .ok d) (hm : (w.run s.collect).1 = .ok m) :
    (w.run (prepare (.metadata s))).1 =
      (d.property MetadataSync.workspaceField).map fun workspace =>
        ([draft (BlobKey.workspaceFile workspace Document.commonVarsFile) d.toYaml,
          draft (BlobKey.workspaceFile workspace Metadata.fileName) m.toYaml], workspace) := by
  obtain ⟨-, hrun⟩ := load_ok (h := World.perform) (s := w) rfl hd fun d =>
    (Plan.ofExcept (d.property MetadataSync.workspaceField)).bind fun workspace =>
      s.collect.bind fun metadata =>
        (done (.ok
          ([draft (BlobKey.workspaceFile workspace Document.commonVarsFile) d.toYaml,
            draft (BlobKey.workspaceFile workspace Metadata.fileName) metadata.toYaml],
            workspace)) : Plan (List Draft × String))
  refine (congrArg Prod.fst hrun).trans ?_
  cases d.property MetadataSync.workspaceField with
  | error e => rfl
  | ok workspace =>
    rcases hcollect : w.run s.collect with ⟨result, w'⟩
    rw [hcollect] at hm
    obtain rfl : result = .ok m := hm
    exact congrArg Prod.fst (Plan.run_bind_ok hcollect _)

/-- What an upload of the common settings stores was read from its file. -/
theorem exists_of_run_prepare_commonVars {s : CommonVarsSync} {drafts : List Draft} {r : Unit}
    (hread : (w.run (prepare (.commonVars s))).1 = .ok (drafts, r)) :
    ∃ d, document w s.source = .ok d ∧ drafts = [draft (.ok s.key) d.toYaml] := by
  obtain ⟨d, hd, hread⟩ := exists_document_of_run hread
  obtain ⟨rfl, -⟩ := Prod.mk.inj (Except.ok.inj hread)
  exact ⟨d, hd, rfl⟩

/-- What an upload of the metadata stores was read from its file and told by the provisioning
tool, and the workspace is the one that the file names. -/
theorem exists_of_run_prepare_metadata {s : MetadataSync} {drafts : List Draft} {r : String}
    (hread : (w.run (prepare (.metadata s))).1 = .ok (drafts, r)) :
    ∃ d m, document w s.source = .ok d ∧ d.property MetadataSync.workspaceField = .ok r ∧
      (w.run s.collect).1 = .ok m ∧
      drafts = [draft (BlobKey.workspaceFile r Document.commonVarsFile) d.toYaml,
        draft (BlobKey.workspaceFile r Metadata.fileName) m.toYaml] := by
  obtain ⟨d, hd, hread⟩ := exists_document_of_run hread
  cases hworkspace : d.property MetadataSync.workspaceField with
  | error e =>
    rw [hworkspace] at hread
    cases hread
  | ok workspace =>
    rw [hworkspace] at hread
    rcases hcollect : w.run s.collect with ⟨e | m, w'⟩
    · cases (congrArg Prod.fst (Plan.run_bind_error hcollect _)).symm.trans hread
    · have hdone := (congrArg Prod.fst (Plan.run_bind_ok hcollect _)).symm.trans hread
      obtain ⟨rfl, rfl⟩ := Prod.mk.inj (Except.ok.inj hdone)
      exact ⟨d, m, hd, hworkspace, rfl, rfl⟩

end Upload

/-! ### Storing -/

/-- A call that stores under one of some keys. -/
def IsStoring (keys : List BlobKey) : Call → Prop
  | .bucket (.upload key _) => key ∈ keys
  | .bucket (.setClass key _) => key ∈ keys
  | _ => False

/-- The keys of drafts. -/
def keysOf (drafts : List Draft) : List BlobKey :=
  drafts.filterMap fun d => d.toOption.map Prod.fst

/-- Storing makes calls under the keys of the drafts only. -/
theorem asks_publish (c : StorageClass) {drafts : List Draft} {keys : List BlobKey}
    (hkeys : keysOf drafts ⊆ keys) :
    Plan.Asks (IsStoring keys) (publish c drafts) := by
  induction drafts with
  | nil => exact Plan.asks_done _
  | cons d rest ih =>
    cases d with
    | error e => exact Plan.asks_done _
    | ok entry =>
      have hcons : keysOf (.ok entry :: rest) = entry.1 :: keysOf rest := rfl
      rw [hcons, List.cons_subset] at hkeys
      exact ⟨hkeys.1, fun _ => ⟨hkeys.1, fun _ => ih hkeys.2⟩⟩

theorem asks_store (t : Target) (drafts : List Draft) (r : α) :
    Plan.Asks (fun q => IsEnsuring t q ∨ IsStoring (keysOf drafts) q)
      (store t drafts r) := by
  refine ((asks_ensureBucket t).mono fun _ => Or.inl).bind fun _ => ?_
  refine ((asks_publish _ (List.Subset.refl _)).mono fun _ => Or.inr).bind fun _ => ?_
  exact Plan.asks_done _

/-- A bucket that is there takes texts one after the other. -/
theorem run_publish (c : StorageClass) (texts : List (BlobKey × String)) (hw : Carries w w' b)
    (hthere : b.isThere) :
    ∃ w'', (publish c (texts.map .ok)).run World.perform w' = (.ok (), w'') ∧
      Carries w w'' (MemoryBucket.storing c texts b) := by
  induction texts generalizing w' b with
  | nil => exact ⟨w', rfl, hw⟩
  | cons entry rest ih =>
    obtain ⟨key, text⟩ := entry
    obtain ⟨w₁, hrun, hw₁⟩ := run_uploadBlob key text c hw hthere
    rw [List.map_cons, publish, Plan.ofExcept, Plan.bind_done_ok,
      Plan.run_bind_ok hrun]
    exact ih hw₁ hthere

/-- Storing ends well only if every draft is a text with its key. -/
theorem exists_texts_of_run {h : Handler Call Call.Answer σ} (c : StorageClass)
    {drafts : List Draft} {s t : σ} (hrun : (publish c drafts).run h s = (.ok (), t)) :
    ∃ texts : List (BlobKey × String), drafts = texts.map .ok := by
  induction drafts generalizing s with
  | nil => exact ⟨[], rfl⟩
  | cons d rest ih =>
    cases d with
    | error e => cases hrun
    | ok entry =>
      rw [publish, Plan.ofExcept, Plan.bind_done_ok, Plan.run_bind_eq_ok_iff] at hrun
      obtain ⟨_, s', -, hrest⟩ := hrun
      obtain ⟨texts, rfl⟩ := ih hrest
      exact ⟨entry :: texts, rfl⟩

/-! ### Uploads -/

namespace Upload

variable {u : Upload} {r : u.Result}

/-- An upload that succeeds has read texts with their keys. -/
theorem exists_texts (hok : (w.run u.plan).1 = .ok r) :
    ∃ texts : List (BlobKey × String), (w.run u.prepare).1 = .ok (texts.map .ok, r) := by
  -- reading, making sure of the bucket and storing have all ended well
  rcases hrun : w.run u.plan with ⟨result, w'⟩
  rw [hrun] at hok
  obtain rfl : result = .ok r := hok
  rw [World.run, plan_eq, Plan.run_bind_eq_ok_iff] at hrun
  obtain ⟨⟨drafts, r'⟩, w₁, hread, hstore⟩ := hrun
  rw [store, Plan.run_bind_eq_ok_iff] at hstore
  obtain ⟨isNew, w₂, -, hstore⟩ := hstore
  rw [Plan.run_bind_eq_ok_iff] at hstore
  obtain ⟨_, w₃, hpublish, hdone⟩ := hstore
  obtain ⟨texts, rfl⟩ := exists_texts_of_run _ hpublish
  obtain rfl : r' = r := Except.ok.inj (congrArg Prod.fst hdone)
  exact ⟨texts, congrArg Prod.fst hread⟩

/-- An upload of texts with their keys makes sure that the bucket is there and stores them in it,
whatever the bucket was before. -/
theorem run_plan {texts : List (BlobKey × String)} (hw : w.Holds b)
    (hread : (w.run u.prepare).1 = .ok (texts.map .ok, r)) (hw' : Carries w w' b') :
    ∃ w'', w'.run u.plan = (.ok r, w'') ∧
      Carries w w''
        (MemoryBucket.storing u.target.storageClass texts { b' with isThere := true }) := by
  obtain ⟨heq, hcarries⟩ :=
    run_reading World.faultless World.faultless u.asks_prepare hw' (Carries.refl hw)
  rcases hprepare : u.prepare.run World.perform w' with ⟨result, w₁⟩
  change (u.prepare.run World.perform w').1 = (u.prepare.run World.perform w).1 at heq
  change Carries w (u.prepare.run World.perform w').2 b' at hcarries
  rw [hprepare] at heq hcarries
  rw [World.run] at hread
  obtain rfl : result = _ := heq.trans hread
  -- what is there now does not depend on what was there before
  obtain ⟨isNew, w₂, hensure, hw₂⟩ := run_ensureBucket u.target hcarries
  obtain ⟨w₃, hstore, hw₃⟩ := run_publish u.target.storageClass texts hw₂ rfl
  refine ⟨w₃, ?_, hw₃⟩
  rw [World.run, plan_eq, Plan.run_bind_ok hprepare, store,
    Plan.run_bind_ok hensure, Plan.run_bind_ok hstore]
  rfl

end Upload

end DeploySync.Sync
