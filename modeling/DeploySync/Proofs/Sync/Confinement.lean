import DeploySync.Proofs.Sync.Export
import Mathlib.Data.Option.Defs

/-!
# What exports depend on

An export sees two documents of its workspace and nothing else of the store: where two stores answer
alike for the two keys, the outcome is the same, whatever else is in them. Of the common settings it
sees the fields that it looks up. A download sees the bytes of its two documents.

## Main definitions

* `Sync.Alike` — two stores answer alike what is asked for a key
* `Sync.ShowAlike` — two stores hold a document alike, as far as it is read
* `Document.AgreeOn` — two documents have the same values at some paths
* `Sync.SameOutcome` — two runs have the same result and leave the same files

## Main results

* `Sync.matched_fetch`, `Sync.matched_downloadIfExists` — one document
* `Sync.exports_confined` — the exports and the download of a workspace
-/

namespace DeploySync

open Plan (Handler Matched Same done)

/-! ### Fields -/

namespace Document

variable {d d' : Document} {path : String}

/-- Two documents have the same values at the paths, or none. -/
def AgreeOn (paths : List String) (d d' : Document) : Prop :=
  ∀ path ∈ paths, d.lookup path = d'.lookup path

theorem property_congr (h : d.lookup path = d'.lookup path) :
    d.property path = d'.property path := by
  rw [property, property, h]

end Document

/-- The properties of a workspace depend on three fields of its common settings. -/
theorem MetadataSync.properties_congr {d d' : Document}
    (h : Document.AgreeOn ["storage.provider", "k8s.abs.version", "asdb.version"] d d')
    (m : Metadata) : MetadataSync.properties d m = MetadataSync.properties d' m := by
  simp only [MetadataSync.properties, Document.property_congr (h "storage.provider" (by simp)),
    Document.property_congr (h "k8s.abs.version" (by simp)),
    Document.property_congr (h "asdb.version" (by simp))]

/-- The properties of two components depend on one field of the database, and on two of the backup
service. -/
theorem ExportSync.properties_congr {database database' backup backup' : Document}
    (hdatabase : Document.AgreeOn ["asdb.version"] database database')
    (hbackup : Document.AgreeOn ["k8s.abs.storage-provider", "k8s.abs.image-tag"] backup backup') :
    ExportSync.properties database backup = ExportSync.properties database' backup' := by
  simp only [ExportSync.properties,
    Document.property_congr (hdatabase "asdb.version" (by simp)),
    Document.property_congr (hbackup "k8s.abs.storage-provider" (by simp)),
    Document.property_congr (hbackup "k8s.abs.image-tag" (by simp))]

namespace Sync

variable {σ τ α β : Type} {store : Handler Bucket.Call Bucket.Call.Answer σ}
variable {store' : Handler Bucket.Call Bucket.Call.Answer τ} {R : σ → τ → Prop}
variable {x : Files × σ} {y : Files × τ} {k : BlobKey} {bucket : String}

/-! ### Stores -/

/-- Two stores answer alike what is asked for a key: whether the blob is there, and its bytes as far
as they are told apart. They stay in relation. -/
structure Alike (store : Handler Bucket.Call Bucket.Call.Answer σ)
    (store' : Handler Bucket.Call Bucket.Call.Answer τ) (R : σ → τ → Prop) (k : BlobKey)
    (E : ByteArray → ByteArray → Prop) : Prop where
  blobExists : ∀ s t, R s t → Matched (· = ·) R (store (.blobExists k) s) (store' (.blobExists k) t)
  download : ∀ s t, R s t → Matched E R (store (.download k) s) (store' (.download k) t)

/-- Two stores answer alike for the key of a document, if it has one; its bytes may differ as far as
what is read of them is in relation, or cannot be read with the same error. -/
def ShowAlike (store : Handler Bucket.Call Bucket.Call.Answer σ)
    (store' : Handler Bucket.Call Bucket.Call.Answer τ) (R : σ → τ → Prop) (d : Source α)
    (D : α → α → Prop) : Prop :=
  ∀ k, d.key = .ok k →
    Alike store store' R k fun bytes bytes' => Same D (d.decode bytes) (d.decode bytes')

/-- Two runs have the same result, leave the same files, and leave the stores in relation. -/
structure SameOutcome (R : σ → τ → Prop) (run : Except Error α × (Files × σ))
    (run' : Except Error α × (Files × τ)) : Prop where
  result : run.1 = run'.1
  files : run.2.1 = run'.2.1
  stores : R run.2.2 run'.2.2

/-- The same files beside stores in relation. -/
def Beside (R : σ → τ → Prop) (x : Files × σ) (y : Files × τ) : Prop := x.1 = y.1 ∧ R x.2 y.2

theorem sameOutcome_of_matched {run : Except Error α × (Files × σ)}
    {run' : Except Error α × (Files × τ)} (h : Matched (· = ·) (Beside R) run run') :
    SameOutcome R run run' := ⟨Plan.same_eq_iff.1 h.result, h.state.1, h.state.2⟩

/-! ### Calls -/

theorem matched_onBucket {c : Bucket.Call} {D : c.Answer → c.Answer → Prop}
    (hc : ∀ s t, R s t → Matched D R (store c s) (store' c t)) (hxy : Beside R x y) :
    Matched D (Beside R) ((onBucket c).run (Host.beside store).answer x)
      ((onBucket c).run (Host.beside store').answer y) := by
  obtain ⟨hresult, hstate⟩ := hc x.2 y.2 hxy.2
  exact Plan.matched_call (Host.beside store).answer (Host.beside store').answer (.bucket c)
    ⟨hresult, hxy.1, hstate⟩

theorem matched_writeFile (p : Path) (bytes : ByteArray) (hxy : Beside R x y) :
    Matched (· = ·) (Beside R) ((writeFile p bytes).run (Host.beside store).answer x)
      ((writeFile p bytes).run (Host.beside store').answer y) := by
  obtain ⟨f, s⟩ := x
  obtain ⟨g, t⟩ := y
  obtain ⟨rfl, hst⟩ : f = g ∧ R s t := hxy
  exact Plan.matched_call (Host.beside store).answer (Host.beside store').answer
    (.writeFile p bytes) ⟨Plan.same_eq_iff.2 rfl, rfl, hst⟩

/-- A document that has to be there is there for both stores, and is read alike. -/
theorem matched_fetch {d : Source α} {D : α → α → Prop} (hd : ShowAlike store store' R d D)
    (hxy : Beside R x y) :
    Matched D (Beside R) ((fetch bucket d).run (Host.beside store).answer x)
      ((fetch bucket d).run (Host.beside store').answer y) := by
  refine Plan.matched_ofExcept_bind hxy fun k hkey => ?_
  have hk := hd k hkey
  rw [fetchRequired_eq]
  refine Matched.bind (D := fun bytes bytes' => Same D (d.decode bytes) (d.decode bytes')) ?_
    fun bytes bytes' x y hbytes hxy => Plan.matched_done hbytes hxy
  refine (matched_onBucket hk.blobExists hxy).bind ?_
  rintro isThere - x y rfl hxy
  cases isThere with
  | false => exact Plan.matched_done (.error _) hxy
  | true => exact matched_onBucket (c := .download k) hk.download hxy

/-- A document that may be missing is there for both stores, or for none, and is written alike. -/
theorem matched_downloadIfExists (hk : Alike store store' R k (· = ·)) (destination : Path)
    (hxy : Beside R x y) :
    Matched (· = ·) (Beside R)
      ((downloadIfExists k destination).run (Host.beside store).answer x)
      ((downloadIfExists k destination).run (Host.beside store').answer y) := by
  rw [downloadIfExists_eq]
  refine (matched_onBucket hk.blobExists hxy).bind ?_
  rintro isThere - x y rfl hxy
  cases isThere with
  | false => exact Plan.matched_done (.ok rfl) hxy
  | true =>
    refine (matched_onBucket hk.download hxy).bind ?_
    rintro bytes - x y rfl hxy
    exact (matched_writeFile destination bytes hxy).bind fun _ _ _ _ _ hxy =>
      Plan.matched_done (.ok rfl) hxy

/-- An export writes the same where the two documents are read alike, as far as the properties
depend on them. -/
theorem matched_exporting {first : Source α} {second : Source β} {D : α → α → Prop}
    {D' : β → β → Prop} {properties : α → β → Except Error Properties} (destination : Path)
    (hfirst : ShowAlike store store' R first D) (hsecond : ShowAlike store store' R second D')
    (hproperties : ∀ a a' b b', D a a' → D' b b' → properties a b = properties a' b')
    (hxy : Beside R x y) :
    Matched (· = ·) (Beside R)
      ((exporting bucket first second properties destination).run (Host.beside store).answer x)
      ((exporting bucket first second properties destination).run
        (Host.beside store').answer y) := by
  refine (matched_fetch hfirst hxy).bind fun a a' x y ha hxy => ?_
  refine (matched_fetch hsecond hxy).bind fun b b' x y hb hxy => ?_
  rw [hproperties a a' b b' ha hb]
  refine Plan.matched_ofExcept_bind hxy fun p _ => ?_
  exact (matched_writeFile destination _ hxy).bind fun _ _ _ _ _ hxy =>
    Plan.matched_done (.ok rfl) hxy

/-- The download of a workspace writes the same where the bytes of its two documents are the
same. -/
theorem matched_download (sync : MetadataSync) (workspace : String)
    (hcommonVars : ∀ k, (MetadataSync.commonVars workspace).key = .ok k →
      Alike store store' R k (· = ·))
    (hmetadata : ∀ k, (MetadataSync.metadata workspace).key = .ok k →
      Alike store store' R k (· = ·))
    (hxy : Beside R x y) :
    Matched (· = ·) (Beside R) ((sync.download workspace).run (Host.beside store).answer x)
      ((sync.download workspace).run (Host.beside store').answer y) := by
  refine Plan.matched_ofExcept_bind hxy fun commonKey hcommonKey => ?_
  refine (matched_downloadIfExists (hcommonVars commonKey hcommonKey) _ hxy).bind ?_
  rintro common - x y rfl hxy
  refine Plan.matched_ofExcept_bind hxy fun metadataKey hmetadataKey => ?_
  refine (matched_downloadIfExists (hmetadata metadataKey hmetadataKey) _ hxy).bind ?_
  rintro metadata - x y rfl hxy
  exact Plan.matched_done (.ok rfl) hxy

/-- The outcome of an export depends on two documents of its workspace. Take any two stores that
answer alike for the keys of these, however they differ elsewhere: the export of the properties of a
workspace and that of its components have the same result and leave the same files, even if the
common settings differ in fields that are not looked up; and so has the download of a workspace,
where the bytes are the same. -/
theorem exports_confined (workspace : String) (f : Files) {s : σ} {t : τ} (hst : R s t) :
    (∀ sync : MetadataSync,
      ShowAlike store store' R (MetadataSync.commonVars workspace)
        (Document.AgreeOn ["storage.provider", "k8s.abs.version", "asdb.version"]) →
      ShowAlike store store' R (MetadataSync.metadata workspace) (· = ·) →
      SameOutcome R ((sync.setEnv workspace).run (Host.beside store).answer (f, s))
        ((sync.setEnv workspace).run (Host.beside store').answer (f, t))) ∧
    (∀ sync : ExportSync,
      ShowAlike store store' R (ExportSync.component workspace ExportSync.databaseComponent)
        (Document.AgreeOn ["asdb.version"]) →
      ShowAlike store store' R (ExportSync.component workspace ExportSync.backupComponent)
        (Document.AgreeOn ["k8s.abs.storage-provider", "k8s.abs.image-tag"]) →
      SameOutcome R ((sync.run workspace).run (Host.beside store).answer (f, s))
        ((sync.run workspace).run (Host.beside store').answer (f, t))) ∧
    ∀ sync : MetadataSync,
      (∀ k, (MetadataSync.commonVars workspace).key = .ok k → Alike store store' R k (· = ·)) →
      (∀ k, (MetadataSync.metadata workspace).key = .ok k → Alike store store' R k (· = ·)) →
      SameOutcome R ((sync.download workspace).run (Host.beside store).answer (f, s))
        ((sync.download workspace).run (Host.beside store').answer (f, t)) := by
  have hxy : Beside R (f, s) (f, t) := ⟨rfl, hst⟩
  refine ⟨fun sync hcommonVars hmetadata => ?_, fun sync hdatabase hbackup => ?_,
    fun sync hcommonVars hmetadata => ?_⟩
  · rw [MetadataSync.setEnv_eq]
    refine sameOutcome_of_matched (matched_exporting _ hcommonVars hmetadata ?_ hxy)
    rintro d d' m - hd rfl
    exact MetadataSync.properties_congr hd m
  · rw [ExportSync.run_eq]
    exact sameOutcome_of_matched (matched_exporting _ hdatabase hbackup
      (fun _ _ _ _ => ExportSync.properties_congr) hxy)
  · exact sameOutcome_of_matched (matched_download sync workspace hcommonVars hmetadata hxy)

/-- Two buckets in memory answer alike for a key if both have a blob under it, with bytes that are
told apart no further. -/
theorem alike_memory {b b' : MemoryBucket} {bytes bytes' : ByteArray}
    {E : ByteArray → ByteArray → Prop} (hblob : b.blob? k = some bytes)
    (hblob' : b'.blob? k = some bytes') (hE : E bytes bytes') :
    Alike MemoryBucket.perform MemoryBucket.perform (fun s t => s = b ∧ t = b') k E where
  blobExists := by
    rintro _ _ ⟨rfl, rfl⟩
    refine ⟨Plan.same_eq_iff.2 ?_, rfl, rfl⟩
    simp [MemoryBucket.perform, hblob, hblob']
  download := by
    rintro _ _ ⟨rfl, rfl⟩
    rw [MemoryBucket.perform, MemoryBucket.perform, hblob, hblob']
    exact ⟨.ok hE, rfl, rfl⟩

/-- The common settings in another order, and with more than is looked up. -/
def reorderedText : String :=
  "asdb:\n  version: 6.4.0\n  nodes: 3\nk8s:\n  abs:\n    version: 7\nstorage:\n  provider: nfs\n"

/-- What these common settings say. -/
def reorderedDocument : Document where
  root := .mapping
    [(.string "asdb", .mapping
        [(.string "version", .string "6.4.0"), (.string "nodes", .number (.whole 3))]),
      (.string "k8s", .mapping
        [(.string "abs", .mapping [(.string "version", .number (.whole 7))])]),
      (.string "storage", .mapping [(.string "provider", .string "nfs")])]

theorem agree_reordered :
    Same (Document.AgreeOn ["storage.provider", "k8s.abs.version", "asdb.version"])
      ((MetadataSync.commonVars "dev").decode (Bytes.ofText World.sampleText))
      ((MetadataSync.commonVars "dev").decode (Bytes.ofText reorderedText)) := by
  have hown : Document.ofBytes (Bytes.ofText World.sampleText) = .ok World.sampleDocument := by
    decide +kernel
  have hother : Document.ofBytes (Bytes.ofText reorderedText) = .ok reorderedDocument := by
    decide +kernel
  have hall : ∀ path ∈ ["storage.provider", "k8s.abs.version", "asdb.version"],
      World.sampleDocument.lookup path = reorderedDocument.lookup path := by decide +kernel
  have hdecode : (MetadataSync.commonVars "dev").decode = Document.ofBytes := rfl
  rw [hdecode, hown, hother]
  exact .ok hall

/-- The metadata of a workspace. -/
def metadataText : String := "asdb-ips: [10.0.0.1]\ngw-ip: 10.0.0.9"

/-- The bucket of a workspace, with its metadata. -/
def ownBucket : MemoryBucket := (exportState (some metadataText)).2

/-- A bucket with the same fields of the workspace, and with another workspace beside it. -/
def sharedBucket : MemoryBucket where
  name := "vars"
  isThere := true
  blobs :=
    [(⟨"prod/common_vars.yaml".toList⟩, Bytes.ofText World.sampleText),
      (⟨"prod/metadata.yaml".toList⟩, Bytes.ofText "gw-ip: 10.1.0.9"),
      (⟨"dev/common_vars.yaml".toList⟩, Bytes.ofText reorderedText),
      (⟨"dev/metadata.yaml".toList⟩, Bytes.ofText metadataText)]

/-- The properties of a workspace are the same where its common settings come in another order and
another workspace stands beside it. -/
theorem exports_confined_sample :
    SameOutcome (fun b b' => b = ownBucket ∧ b' = sharedBucket)
      ((sampleMetadata.setEnv "dev").run (Host.beside MemoryBucket.perform).answer
        ((exportState none).1, ownBucket))
      ((sampleMetadata.setEnv "dev").run (Host.beside MemoryBucket.perform).answer
        ((exportState none).1, sharedBucket)) := by
  refine (exports_confined "dev" (exportState none).1 ⟨rfl, rfl⟩).1 sampleMetadata ?_ ?_
  · intro k hk
    obtain rfl : k = ⟨"dev/common_vars.yaml".toList⟩ :=
      Except.ok.inj (hk.symm.trans (by decide +kernel))
    have hown : ownBucket.blob? ⟨"dev/common_vars.yaml".toList⟩ =
        some (Bytes.ofText World.sampleText) := by decide +kernel
    have hshared : sharedBucket.blob? ⟨"dev/common_vars.yaml".toList⟩ =
        some (Bytes.ofText reorderedText) := by decide +kernel
    exact alike_memory hown hshared agree_reordered
  · intro k hk
    obtain rfl : k = ⟨"dev/metadata.yaml".toList⟩ :=
      Except.ok.inj (hk.symm.trans (by decide +kernel))
    have hown : ownBucket.blob? ⟨"dev/metadata.yaml".toList⟩ =
        some (Bytes.ofText metadataText) := by decide +kernel
    have hshared : sharedBucket.blob? ⟨"dev/metadata.yaml".toList⟩ =
        some (Bytes.ofText metadataText) := by decide +kernel
    exact alike_memory hown hshared (Plan.same_eq_iff.2 rfl)

end Sync

end DeploySync
