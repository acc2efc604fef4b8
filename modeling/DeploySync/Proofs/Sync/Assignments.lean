import DeploySync.Proofs.Literal
import DeploySync.Proofs.Properties
import DeploySync.Proofs.Sync.Export

/-!
# What an exported file assigns

Deployment steps read the exported file line by line. They find the properties that were computed as
long as none of the texts that go into the file as they are has a line break. Lists, numbers and
everything else that is written as a literal are never in the way.

## Main results

* `MetadataSync.forall_newline_iff`, `ExportSync.forall_newline_iff` — the values that may have line
  breaks
* `Sync.exports_assign_iff` — when an exported file assigns the properties and nothing else
-/

namespace DeploySync

theorem Document.newline_notMem_iff {d : Document} {path text : String}
    (h : d.property path = .ok text) :
    '\n' ∉ text.toList ↔ ∀ s, d.IsText path s → '\n' ∉ s.toList := by
  rw [newline_mem_property_iff h]
  simp

namespace MetadataSync

variable {d : Document} {m : Metadata} {p : Properties}

/-- The keys of the properties of a workspace. -/
def exportedKeys : List String :=
  ["ASDB_IPS", "GW_IP", "STORAGE_PROVIDER", "ABS_VERSION", "ASDB_VERSION"]

/-- A value of the properties of a workspace can have a line break if it is the address of the
gateway or a field that is a text. -/
theorem forall_newline_iff (h : properties d m = .ok p) :
    p.entries.map (·.1) = exportedKeys ∧
      ((∀ entry ∈ p.entries, '\n' ∉ entry.2.toList) ↔
        '\n' ∉ m.gateway.toList ∧
          ∀ field ∈ ["storage.provider", "k8s.abs.version", "asdb.version"], ∀ text,
            d.IsText field text → '\n' ∉ text.toList) := by
  obtain ⟨provider, backup, database, hprovider, hbackup, hdatabase, rfl⟩ :=
    Properties.exists_of_fields h
  refine ⟨rfl, ?_⟩
  have hentries : (Properties.ofList [("ASDB_IPS", Literal.listText m.nodes), ("GW_IP", m.gateway),
      ("STORAGE_PROVIDER", provider), ("ABS_VERSION", backup),
      ("ASDB_VERSION", database)]).entries = [("ASDB_IPS", Literal.listText m.nodes),
        ("GW_IP", m.gateway), ("STORAGE_PROVIDER", provider), ("ABS_VERSION", backup),
        ("ASDB_VERSION", database)] := rfl
  rw [hentries]
  simp only [List.forall_mem_cons, Literal.newline_notMem_listText, not_false_eq_true, true_and,
    Document.newline_notMem_iff hprovider, Document.newline_notMem_iff hbackup,
    Document.newline_notMem_iff hdatabase, List.not_mem_nil, false_imp_iff, implies_true]

end MetadataSync

namespace ExportSync

variable {database backup : Document} {p : Properties}

/-- The keys of the properties of the two components. -/
def exportedKeys : List String := ["ABS_STORAGE_PROVIDER", "ABS_IMAGE_TAG", "ASDB_VERSION"]

/-- A value of the properties of the two components can have a line break if it is a field that is a
text. -/
theorem forall_newline_iff (h : properties database backup = .ok p) :
    p.entries.map (·.1) = exportedKeys ∧
      ((∀ entry ∈ p.entries, '\n' ∉ entry.2.toList) ↔
        (∀ field ∈ ["k8s.abs.storage-provider", "k8s.abs.image-tag"], ∀ text,
          backup.IsText field text → '\n' ∉ text.toList) ∧
        ∀ text, database.IsText "asdb.version" text → '\n' ∉ text.toList) := by
  obtain ⟨provider, image, version, hprovider, himage, hversion, rfl⟩ :=
    Properties.exists_of_fields h
  refine ⟨rfl, ?_⟩
  have hentries : (Properties.ofList [("ABS_STORAGE_PROVIDER", provider), ("ABS_IMAGE_TAG", image),
      ("ASDB_VERSION", version)]).entries = [("ABS_STORAGE_PROVIDER", provider),
        ("ABS_IMAGE_TAG", image), ("ASDB_VERSION", version)] := rfl
  rw [hentries]
  simp only [List.forall_mem_cons, Document.newline_notMem_iff hprovider,
    Document.newline_notMem_iff himage, Document.newline_notMem_iff hversion, List.not_mem_nil,
    false_imp_iff, implies_true, and_true, and_assoc]

end ExportSync

namespace Sync

variable {σ : Type}

/-- An exported file assigns the properties and nothing else exactly if the address of the gateway
and the exported fields that are texts have no line break. -/
theorem exports_assign_iff (host : Host σ) (s : σ) (workspace : String) (p : Properties) :
    (∀ sync : MetadataSync, ((sync.setEnv workspace).run host.answer s).1 = .ok p →
      let shown := (sync.setEnv workspace).calls host.answer s
      (host.files ((sync.setEnv workspace).run host.answer s).2).read sync.propertiesPath =
          .ok (Bytes.ofText p.render) ∧
        p.entries.map (·.1) = MetadataSync.exportedKeys ∧
        ∃ d m, (MetadataSync.commonVars workspace).Downloaded shown d ∧
          (MetadataSync.metadata workspace).Downloaded shown m ∧
          (p.Assigned p.render ↔
            '\n' ∉ m.gateway.toList ∧
              ∀ field ∈ ["storage.provider", "k8s.abs.version", "asdb.version"], ∀ text,
                d.IsText field text → '\n' ∉ text.toList)) ∧
    ∀ sync : ExportSync, ((sync.run workspace).run host.answer s).1 = .ok p →
      let shown := (sync.run workspace).calls host.answer s
      (host.files ((sync.run workspace).run host.answer s).2).read sync.destination =
          .ok (Bytes.ofText p.render) ∧
        p.entries.map (·.1) = ExportSync.exportedKeys ∧
        ∃ database backup,
          (ExportSync.component workspace ExportSync.databaseComponent).Downloaded shown database ∧
          (ExportSync.component workspace ExportSync.backupComponent).Downloaded shown backup ∧
          (p.Assigned p.render ↔
            (∀ field ∈ ["k8s.abs.storage-provider", "k8s.abs.image-tag"], ∀ text,
              backup.IsText field text → '\n' ∉ text.toList) ∧
            ∀ text, database.IsText "asdb.version" text → '\n' ∉ text.toList) := by
  constructor
  · intro sync hp
    rw [MetadataSync.setEnv_eq] at hp ⊢
    have hcourse := exporting_course host.answer sync.target.bucket
      (MetadataSync.commonVars workspace) (MetadataSync.metadata workspace)
      MetadataSync.properties sync.propertiesPath s
    rw [hp] at hcourse
    obtain ⟨d, m, hd, hm, hproperties⟩ := hcourse.documents
    obtain ⟨hkeys, hvalues⟩ := MetadataSync.forall_newline_iff hproperties
    refine ⟨host.read_exporting (Prod.ext hp rfl), hkeys, d, m, hd, hm, ?_⟩
    rw [← hvalues]
    exact Properties.assigned_render_iff hkeys (by decide)
  · intro sync hp
    rw [ExportSync.run_eq] at hp ⊢
    have hcourse := exporting_course host.answer sync.bucket
      (ExportSync.component workspace ExportSync.databaseComponent)
      (ExportSync.component workspace ExportSync.backupComponent) ExportSync.properties
      sync.destination s
    rw [hp] at hcourse
    obtain ⟨database, backup, hdatabase, hbackup, hproperties⟩ := hcourse.documents
    obtain ⟨hkeys, hvalues⟩ := ExportSync.forall_newline_iff hproperties
    refine ⟨host.read_exporting (Prod.ext hp rfl), hkeys, database, backup, hdatabase, hbackup, ?_⟩
    rw [← hvalues]
    exact Properties.assigned_render_iff hkeys (by decide)

/-- A bucket in memory with two documents of a workspace, beside files with its directory. -/
def assignState (first second : String × String) : Files × MemoryBucket where
  fst := { root := .directory [("stage", .directory [])] }
  snd := {
    name := "vars"
    isThere := true
    blobs :=
      [(⟨first.1.toList⟩, Bytes.ofText first.2), (⟨second.1.toList⟩, Bytes.ofText second.2)] }

/-- Line breaks in a list are escaped, so that both exports assign the properties. -/
theorem exports_assign_sample :
    let s := assignState ("dev/common_vars.yaml", World.sampleText)
      ("dev/metadata.yaml", "asdb-ips: [\"10.0.0.1\\nGW_IP=1\"]\ngw-ip: 10.0.0.9")
    let p : Properties :=
      ⟨[("ASDB_IPS", "['10.0.0.1\\nGW_IP=1']"), ("GW_IP", "10.0.0.9"), ("STORAGE_PROVIDER", "nfs"),
        ("ABS_VERSION", "7"), ("ASDB_VERSION", "6.4.0")]⟩
    let s' := assignState ("dev/asdb/common_vars.yaml", World.sampleText)
      ("dev/abs/common_vars.yaml",
        "k8s:\n  abs:\n    storage-provider: nfs\n    image-tag: [\"a\\nb\"]")
    let p' : Properties :=
      ⟨[("ABS_STORAGE_PROVIDER", "nfs"), ("ABS_IMAGE_TAG", "['a\\nb']"), ("ASDB_VERSION", "6.4.0")]⟩
    ((sampleMetadata.setEnv "dev").run sampleHost.answer s).1 = .ok p ∧
      (∃ d m, (MetadataSync.commonVars "dev").Downloaded
          ((sampleMetadata.setEnv "dev").calls sampleHost.answer s) d ∧
        (MetadataSync.metadata "dev").Downloaded
          ((sampleMetadata.setEnv "dev").calls sampleHost.answer s) m ∧
        '\n' ∉ m.gateway.toList ∧
        ∀ field ∈ ["storage.provider", "k8s.abs.version", "asdb.version"], ∀ text,
          d.IsText field text → '\n' ∉ text.toList) ∧
      (((ExportSync.mk "vars" ⟨"/stage/env.properties"⟩).run "dev").run sampleHost.answer s').1 =
        .ok p' ∧
      (sampleHost.files (((ExportSync.mk "vars" ⟨"/stage/env.properties"⟩).run "dev").run
          sampleHost.answer s').2).read ⟨"/stage/env.properties"⟩ =
        .ok (Bytes.ofText p'.render) := by
  intro s p s' p'
  have hp : ((sampleMetadata.setEnv "dev").run sampleHost.answer s).1 = .ok p := by decide +kernel
  have hp' : (((ExportSync.mk "vars" ⟨"/stage/env.properties"⟩).run "dev").run sampleHost.answer
      s').1 = .ok p' := by decide +kernel
  have hassigned : p.Assigned p.render := ⟨by decide, by decide, by decide⟩
  obtain ⟨-, -, d, m, hd, hm, hiff⟩ := (exports_assign_iff sampleHost s "dev" p).1 sampleMetadata hp
  obtain ⟨hread, -⟩ := (exports_assign_iff sampleHost s' "dev" p').2 _ hp'
  exact ⟨hp, ⟨d, m, hd, hm, hiff.1 hassigned⟩, hp', hread⟩

/-- A field that is a text with a line break adds a line of its own, which assigns the address of
the gateway once more. -/
theorem not_assigned_of_line_break :
    let s := assignState
      ("dev/common_vars.yaml",
        "storage:\n  provider: \"nfs\\nGW_IP=6.6.6.6\"\n" ++
          "k8s:\n  abs:\n    version: 7\nasdb:\n  version: 8")
      ("dev/metadata.yaml", "asdb-ips: []\ngw-ip: 10.0.0.9")
    ∃ p, ((sampleMetadata.setEnv "dev").run sampleHost.answer s).1 = .ok p ∧
      p.entries.map (·.1) = MetadataSync.exportedKeys ∧
      (Properties.lines p.render).length = 6 ∧
      Properties.assignments? p.render =
        some [("ASDB_IPS", "[]"), ("GW_IP", "10.0.0.9"), ("STORAGE_PROVIDER", "nfs"),
          ("GW_IP", "6.6.6.6"), ("ABS_VERSION", "7"), ("ASDB_VERSION", "8")] ∧
      ¬ p.Assigned p.render := by
  refine ⟨⟨[("ASDB_IPS", "[]"), ("GW_IP", "10.0.0.9"), ("STORAGE_PROVIDER", "nfs\nGW_IP=6.6.6.6"),
    ("ABS_VERSION", "7"), ("ASDB_VERSION", "8")]⟩, by decide +kernel, rfl, by decide +kernel,
    by decide +kernel, fun h => ?_⟩
  have hlength := h.length
  revert hlength
  decide +kernel

end Sync

end DeploySync
