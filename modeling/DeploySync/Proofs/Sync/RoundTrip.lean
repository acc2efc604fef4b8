import DeploySync.Proofs.Sync.Upload

/-!
# What is uploaded is downloaded again

The copy of the common settings in the bucket stays what it is until something is uploaded under its
key, so that a download gives the document that was uploaded, and uploading that gives the copy
again.

## Main results

* `Sync.run_download_again` — a download, and an upload of what was downloaded
* `Sync.upload_download` — an upload of the common settings, a download at any later time, and an
  upload of what was downloaded
* `Sync.not_download_of_directory` — a directory in the place of the file is in the way
-/

namespace DeploySync.Sync

variable {w : World} {b : MemoryBucket}

/-- An upload of the common settings succeeds and leaves the document in the bucket; nothing else of
the world is changed. -/
theorem run_upload_commonVars {s : CommonVarsSync} {d : Document} {yaml : String} (hw : w.Holds b)
    (hd : document w s.source = .ok d) (hyaml : d.toYaml = .ok yaml) :
    ∃ w' b', w.run s.upload = (.ok (), w') ∧ Carries w w' b' ∧ b'.isThere ∧
      b'.blob? s.key = some (Bytes.ofText yaml) := by
  obtain ⟨w', hrun, hw'⟩ :=
    Upload.run_plan hw (Upload.run_prepare_commonVars hd hyaml) (.refl hw)
  refine ⟨w', _, hrun, hw', by rw [MemoryBucket.isThere_storing], ?_⟩
  exact MemoryBucket.blob?_storing_of_mem (by simp) (by simp)

/-- A document that is read back has a text. -/
theorem exists_yaml_of_round {d : Document} (h : d.toYaml.bind Document.parse = .ok d) :
    ∃ yaml, d.toYaml = .ok yaml ∧ Document.parse yaml = .ok d := by
  cases hyaml : d.toYaml with
  | error e =>
    rw [hyaml] at h
    cases h
  | ok yaml =>
    rw [hyaml] at h
    exact ⟨yaml, rfl, h⟩

/-- A file that holds a text is parsed as this text. -/
theorem loaded_ofText (p : Path) (text : String) :
    loaded p (.ok (Bytes.ofText text)) = Document.parse text := by
  rw [loaded, Except.bind, Files.textOf, Bytes.text?_ofText]
  rfl

theorem isFileName_commonVarsFile : Files.IsFileName Document.commonVarsFile where
  slash := by decide
  notTrivial := by decide
  zero := by decide
  notUp := by decide
  fits := by decide

/-- A document that is in the bucket is downloaded over a file that can be written, no other file
changes, and an upload of what was downloaded stores the same bytes. -/
theorem run_download_again {s : CommonVarsSync} {d : Document} {yaml : String} (hw : w.Holds b)
    (hblob : b.blob? s.key = some (Bytes.ofText yaml)) (hyaml : d.toYaml = .ok yaml)
    (hparse : Document.parse yaml = .ok d) (hwritable : w.files.Writable s.destination) :
    let w' := (w.run s.download).2
    let again := { s with source := s.destination }
    (w.run s.download).1 = .ok true ∧
      w'.files.read s.destination = .ok (Bytes.ofText yaml) ∧
      (∀ p old, w.files.locate p ≠ w.files.locate s.destination →
        w.files.read p = .ok old → w'.files.read p = .ok old) ∧
      document w' s.destination = .ok d ∧
      ∃ b', (w'.run again.upload).1 = .ok () ∧ (w'.run again.upload).2.Holds b' ∧
        b'.blob? s.key = some (Bytes.ofText yaml) := by
  obtain ⟨w₁, place, name, hdownload, hw₁, hplace, hfiles⟩ :=
    run_downloadIfExists hw hblob hwritable
  change w.run s.download = _ at hdownload
  have hread : w₁.files.read s.destination = .ok (Bytes.ofText yaml) := by
    rw [hfiles]
    exact hplace.read_withFile _
  have hdocument : document w₁ s.destination = .ok d := by
    rw [document, hread]
    exact (loaded_ofText _ yaml).trans hparse
  -- what was downloaded is what the next upload reads
  obtain ⟨w₂, b₂, hagain, hw₂, -, hblob₂⟩ :=
    run_upload_commonVars (s := { s with source := s.destination }) hw₁ hdocument hyaml
  dsimp only
  rw [hdownload, hagain]
  refine ⟨rfl, hread, ?_, hdocument, b₂, rfl, hw₂.holds, hblob₂⟩
  intro p old hne hold
  rw [hfiles]
  exact hplace.read_withFile_of_ne hold hne

/-- The common settings are uploaded, and later they are downloaded to the directory of the
environment; in between nothing is uploaded under their key. If the path of the file there is not
too long and no directory has its name, the file then holds the bytes that were uploaded, all other
files are left alone, the document is the one that was uploaded, and uploading it from there stores
these bytes again. Otherwise the download fails at that file, and no file is changed. -/
theorem upload_download (c : Settings) (executable : Path) {s : CommonVarsSync}
    (hs : CommonVarsSync.ofSettings c executable = .ok s) {dir : Path}
    (hdir : c.environmentDir executable = .ok dir) (hexists : w.files.isDirectory dir)
    (hw : w.Holds b) {d : Document} (hd : document w s.source = .ok d)
    (hround : d.toYaml.bind Document.parse = .ok d) (later : List World.Turn)
    (hlater : ¬ World.Uploaded (World.shown later (w.run s.upload).2) s.key) :
    let w₁ := (w.run s.upload).2
    let w₂ := World.after later w₁
    let w₃ := (w₂.run s.download).2
    let again := { s with source := s.destination }
    let isFree := ¬ w.files.isDirectory s.destination ∧
      s.destination.text.utf8ByteSize ≤ Files.maxPathLength
    ∃ stored b₁, (w.run s.upload).1 = .ok () ∧ w₁.Holds b₁ ∧ b₁.blob? s.key = some stored ∧
      s.destination = dir.join Document.commonVarsFile ∧
      (isFree → (w₂.run s.download).1 = .ok true ∧
        w₃.files.read s.destination = .ok stored ∧
        (∀ p old, w₂.files.locate p ≠ w₂.files.locate s.destination →
          w₂.files.read p = .ok old → w₃.files.read p = .ok old) ∧
        document w₃ s.destination = .ok d ∧
        ∃ b₄, (w₃.run again.upload).1 = .ok () ∧ (w₃.run again.upload).2.Holds b₄ ∧
          b₄.blob? s.key = some stored) ∧
      (¬ isFree → ∃ fault,
        (w₂.run s.download).1 = .error (.localFile s.destination fault) ∧ w₃.files = w₂.files) := by
  obtain ⟨-, -, dir', -, hdir', -, -, hdestination⟩ := ofSettings_commonVars hs
  obtain rfl : dir' = dir := Except.ok.inj (hdir'.symm.trans hdir)
  obtain ⟨yaml, hyaml, hparse⟩ := exists_yaml_of_round hround
  -- the upload
  obtain ⟨w₁, b₁, hupload, hw₁, hthere₁, hblob₁⟩ := run_upload_commonVars hw hd hyaml
  rw [hupload] at hlater ⊢
  -- what is done in between
  have hkept : World.Later [s.key] w₁ (World.after later w₁) := by
    refine World.later_after later hw₁.holds fun k hk => ?_
    rwa [List.mem_singleton.1 hk]
  obtain ⟨b₂, hw₂, hblobs, -⟩ := hkept.bucket b₁ hw₁.holds
  have hblob₂ := (hblobs s.key (by simp)).trans hblob₁
  have hwritable : w₁.files.Writable s.destination ↔
      ¬ w₁.files.isDirectory s.destination ∧
        s.destination.text.utf8ByteSize ≤ Files.maxPathLength := by
    rw [hw₁.files, hdestination]
    exact Files.writable_join_iff hexists isFileName_commonVarsFile
  rw [← hw₁.files] at hexists
  rw [← hw₁.files]
  refine ⟨Bytes.ofText yaml, b₁, rfl, hw₁.holds, hblob₁, hdestination, fun hfree => ?_,
    fun hnot => ?_⟩
  · exact run_download_again hw₂ hblob₂ hyaml hparse (hkept.writable (hwritable.2 hfree))
  · -- what is in the way now is in the way then
    have hnotWritable : ¬ (World.after later w₁).files.Writable s.destination := by
      intro h
      rw [hdestination] at h
      obtain ⟨hfree, hlength⟩ := (Files.writable_join_iff (hkept.directories dir' hexists)
        isFileName_commonVarsFile).1 h
      rw [← hdestination] at hfree hlength
      exact hnot ⟨fun hoccupied => hfree (hkept.directories _ hoccupied), hlength⟩
    obtain ⟨w₃, fault, hdownload, -, hfiles⟩ :=
      run_downloadIfExists_of_not_writable hw₂ hblob₂ hnotWritable
    change (World.after later w₁).run s.download = _ at hdownload
    dsimp only
    rw [hdownload]
    exact ⟨fault, rfl, hfiles⟩

/-- In the small world the copy is downloaded in between while the bucket answers, and once more
while it does not. -/
theorem upload_download_sample :
    let w := World.sample
    let s := sampleCommonVars
    let down := Error.storage (.other "down")
    let later : List World.Turn :=
      [⟨World.faultless, Bool, s.download⟩, ⟨.failingAt 0 down, Bool, s.download⟩]
    let w₁ := (w.run s.upload).2
    let w₂ := World.after later w₁
    let w₃ := (w₂.run s.download).2
    let again := { s with source := s.destination }
    (w.run s.upload).1 = .ok () ∧ (w₂.run s.download).1 = .ok true ∧
      document w₃ ⟨"/stage/common_vars.yaml"⟩ = .ok World.sampleDocument ∧
      (w₃.run again.upload).1 = .ok () := by
  intro w s down later w₁ w₂ w₃ again
  have hdir : World.sampleSettings.environmentDir ⟨"/tool"⟩ = .ok ⟨"/stage"⟩ := by decide +kernel
  have hd : document w s.source = .ok World.sampleDocument := by decide +kernel
  have hlater : ¬ World.Uploaded (World.shown later w₁) s.key := by
    refine World.not_uploaded_of_asks (fun turn hturn => ?_) w₁
    have hasks : Plan.Asks (fun q => ∀ bytes, q ≠ .bucket (.upload s.key bytes))
        s.download := asks_downloadIfExists.mono fun q hq => hq s.key
    rcases List.mem_cons.1 hturn with rfl | hturn
    · exact hasks
    · rw [List.mem_singleton.1 hturn]
      exact hasks
  obtain ⟨stored, b₁, hupload, -, -, -, hfree, -⟩ :=
    upload_download World.sampleSettings ⟨"/tool"⟩ ofSettings_sampleCommonVars hdir
      (by decide +kernel) World.sample_holds hd World.parse_toYaml_sampleDocument later hlater
  obtain ⟨hdownload, -, -, hdocument, b₄, hagain, -⟩ :=
    hfree ⟨by decide +kernel, by decide +kernel⟩
  exact ⟨hupload, hdownload, hdocument, hagain⟩

/-- The settings of an environment whose common settings stand in another file. -/
def elsewhereSettings : Settings :=
  { World.sampleSettings with commonVars := some ⟨"/other.yaml"⟩ }

/-- The synchronization that these settings name. -/
def elsewhere : CommonVarsSync :=
  { sampleCommonVars with source := ⟨"/other.yaml"⟩ }

/-- A world in which a directory stands where the common settings would be downloaded to. -/
def occupied : World :=
  { World.sample with
    surroundings := {
      files := {
        root := .directory
          [("stage", .directory [("common_vars.yaml", .directory [])]),
            ("other.yaml", .file (Bytes.ofText World.sampleText))] } } }

/-- A directory in the place of the file is in the way: the upload succeeds, but then nothing can be
downloaded. -/
theorem not_download_of_directory :
    CommonVarsSync.ofSettings elsewhereSettings ⟨"/tool"⟩ = .ok elsewhere ∧
      elsewhereSettings.environmentDir ⟨"/tool"⟩ = .ok ⟨"/stage"⟩ ∧
      occupied.Holds { name := "vars" } ∧
      occupied.files.isDirectory ⟨"/stage"⟩ ∧
      document occupied elsewhere.source = .ok World.sampleDocument ∧
      World.sampleDocument.toYaml.bind Document.parse = .ok World.sampleDocument ∧
      (occupied.run elsewhere.upload).1 = .ok () ∧
      ∃ fault, ((occupied.run elsewhere.upload).2.run elsewhere.download).1 =
        .error (.localFile ⟨"/stage/common_vars.yaml"⟩ fault) := by
  have hholds : occupied.Holds { name := "vars" } := ⟨rfl, rfl⟩
  have hdirectory : occupied.files.isDirectory ⟨"/stage"⟩ := by decide +kernel
  have hoccupied : occupied.files.isDirectory elsewhere.destination := by decide +kernel
  have hd : document occupied elsewhere.source = .ok World.sampleDocument := by decide +kernel
  obtain ⟨w₁, b₁, hupload, hw₁, -, hblob⟩ :=
    run_upload_commonVars hholds hd World.toYaml_sampleDocument
  have hnot : ¬ w₁.files.Writable elsewhere.destination := by
    rw [hw₁.files]
    exact fun h =>
      ((Files.writable_join_iff hdirectory isFileName_commonVarsFile).1 h).1 hoccupied
  obtain ⟨w₂, fault, hdownload, -⟩ :=
    run_downloadIfExists_of_not_writable hw₁.holds hblob hnot
  refine ⟨by decide +kernel, by decide +kernel, hholds, hdirectory, hd,
    World.parse_toYaml_sampleDocument, ?_, fault, ?_⟩
  · rw [hupload]
  · rw [hupload]
    exact congrArg Prod.fst hdownload

end DeploySync.Sync
