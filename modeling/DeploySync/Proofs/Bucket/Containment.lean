import DeploySync.Proofs.Bucket.Isolation
import DeploySync.Proofs.Path.Components

/-!
# Keys stay in their bucket

A bucket kept as a directory refuses the keys with relative components. The file of any other key
has a path that goes on from the directory of the bucket by one or more names, so that what is asked
of the files for the key is asked within the bucket, and nothing outside it changes.

## Main definitions

* `DirectoryBucket.Within` — a call on files within a bucket

## Main results

* `DirectoryBucket.blobPath_refused_iff`, `DirectoryBucket.goesOn_of_blobPath` — which keys have
  files, and where
* `DirectoryBucket.asks_within` — what is asked of the files for a key
* `DirectoryBucket.look_of_perform` — what changes where a key is served
* `DirectoryBucket.keys_contained` — all of this for the keys of segments
-/

namespace DeploySync.DirectoryBucket

variable {b : DirectoryBucket} {f : Files} {k : BlobKey} {p : Path} {c : Bucket.Call}

/-! ### Paths -/

/-- A key has no file exactly if one of its components is relative. -/
theorem blobPath_refused_iff :
    (∃ e, b.blobPath k = .error (.validation e)) ↔
      ['.'] ∈ k.components ∨ ['.', '.'] ∈ k.components := by
  rw [← BlobKey.isRelative_iff, blobPath]
  by_cases h : k.isRelative <;> simp [h]

theorem eq_of_blobPath (h : b.blobPath k = .ok p) :
    k.isRelative = false ∧ p = b.root.join k.text := by
  rw [blobPath] at h
  split_ifs at h with hrelative
  exact ⟨by simpa using hrelative, (Except.ok.inj h).symm⟩

/-- The path of a file goes on from the directory of the bucket. -/
theorem goesOn_of_blobPath (hk : k.IsTrimmed) (h : b.blobPath k = .ok p) :
    k.names ≠ [] ∧ b.root.GoesOn p k.names := by
  obtain ⟨hrelative, rfl⟩ := eq_of_blobPath h
  exact ⟨BlobKey.names_ne_nil hk hrelative,
    Path.goesOn_of_names (BlobKey.isAbsolute_join hk) (BlobKey.startsHere_join hk hrelative b.root)
      (BlobKey.names_join hk) (BlobKey.up_notMem_names hrelative)⟩

/-- The path above it goes on from the directory of the bucket, or is a path to it. -/
theorem exists_parent_of_blobPath (hk : k.IsTrimmed) (h : b.blobPath k = .ok p) :
    ∃ parent, p.parent? = some parent ∧ b.root.GoesOn parent k.names.dropLast := by
  obtain ⟨hrelative, rfl⟩ := eq_of_blobPath h
  obtain ⟨parent, hparent, hnames, habsolute, hhere, -⟩ :=
    BlobKey.exists_parent_join hk hrelative b.root
  exact ⟨parent, hparent,
    Path.goesOn_of_names habsolute hhere hnames (BlobKey.up_notMem_above hrelative)⟩

/-! ### Calls -/

/-- A call on the files within a bucket: it asks whether the bucket is there, creates directories in
it, or is about something below it. -/
def Within (b : DirectoryBucket) : Files.Call → Prop
  | .isDirectory p => p = b.root
  | .createDirectories p => ∃ names, b.root.GoesOn p names
  | .isFile p | .holds p | .read p | .write p _ => ∃ names, names ≠ [] ∧ b.root.GoesOn p names

/-- What is asked of the files for a key: whether the bucket is there, and something about the file
of the key if it has one. -/
theorem asks_plan {P : Files.Call → Prop} (hc : c.key? = some k) (hroot : P (.isDirectory b.root))
    (hfile : ∀ p, b.blobPath k = .ok p → P (.isFile p) ∧ P (.read p) ∧
      (∀ bytes, P (.write p bytes)) ∧
      ∀ parent, p.parent? = some parent → P (.createDirectories parent)) :
    (b.plan c).Asks P := by
  -- a key without a path asks for nothing
  have hpath : ∀ {α : Type} {next : Path → FilePlan α},
      (∀ p, b.blobPath k = .ok p → (next p).Asks P) →
        ((Plan.ofExcept (b.blobPath k)).bind next : FilePlan α).Asks P := by
    intro α next hnext
    cases hpath : b.blobPath k with
    | error e => exact Plan.asks_done _
    | ok p => exact hnext p hpath
  cases c with
  | bucketExists => cases hc
  | createBucket location c => cases hc
  | blobExists key =>
    obtain rfl := Option.some.inj hc
    exact hpath fun p hp => ⟨(hfile p hp).1, fun _ => Plan.asks_done _⟩
  | download key =>
    obtain rfl := Option.some.inj hc
    refine hpath fun p hp => ⟨(hfile p hp).1, fun isFile => ?_⟩
    cases isFile with
    | false => exact Plan.asks_done _
    | true => exact ⟨(hfile p hp).2.1, fun _ => Plan.asks_done _⟩
  | upload key bytes =>
    obtain rfl := Option.some.inj hc
    refine ⟨hroot, fun isDirectory => ?_⟩
    cases isDirectory with
    | false => exact Plan.asks_done _
    | true =>
      refine hpath fun p hp => ?_
      obtain ⟨-, -, hwrite, hparent⟩ := hfile p hp
      cases habove : p.parent? with
      | none => exact ⟨hwrite bytes, fun _ => Plan.asks_done _⟩
      | some parent =>
        exact ⟨hparent parent habove, fun _ => ⟨hwrite bytes, fun _ => Plan.asks_done _⟩⟩
  | setClass key c =>
    obtain rfl := Option.some.inj hc
    refine hpath fun p hp => ⟨(hfile p hp).1, fun isFile => ?_⟩
    cases isFile <;> exact Plan.asks_done _

/-- What is asked of the files for a key is asked within the bucket. -/
theorem asks_within (hk : k.IsTrimmed) (hc : c.key? = some k) : (b.plan c).Asks b.Within := by
  refine asks_plan hc rfl fun p hp => ?_
  have hfile : ∃ names, names ≠ [] ∧ b.root.GoesOn p names := ⟨_, goesOn_of_blobPath hk hp⟩
  refine ⟨hfile, hfile, fun _ => hfile, fun parent hparent => ?_⟩
  obtain ⟨parent', hparent', habove⟩ := exists_parent_of_blobPath hk hp
  obtain rfl := Option.some.inj (hparent.symm.trans hparent')
  exact ⟨_, habove⟩

/-- For a key that is refused no more is asked than whether the bucket is there. -/
theorem asks_of_isRelative (hrelative : k.isRelative) (hc : c.key? = some k) :
    (b.plan c).Asks (· = .isDirectory b.root) := by
  refine asks_plan hc rfl fun p hp => ?_
  rw [(eq_of_blobPath hp).1] at hrelative
  cases hrelative

/-! ### What changes -/

/-- Whatever becomes of a call for a key, it changes nothing but what stands below the directory of
the bucket at names that lead to the file of the key. -/
theorem look_of_perform (hk : k.IsTrimmed) (hc : c.key? = some k) :
    (b.perform c f).2.here = f.here ∧
      ∀ names, (b.perform c f).2.root.look names ≠ f.root.look names →
        ∃ rest, rest ≠ [] ∧ rest <+: k.names ∧ names = b.place f ++ rest := by
  have habove : ∀ names, b.IsAboveFile f k names →
      ∃ rest, rest ≠ [] ∧ rest <+: k.names ∧ names = b.place f ++ rest :=
    fun names ⟨rest, hne, hrest, hnames⟩ =>
      ⟨rest, hne, hrest.trans (List.dropLast_prefix _), hnames⟩
  cases c with
  | bucketExists => cases hc
  | createBucket location c => cases hc
  | blobExists key =>
    rw [perform_blobExists]
    exact ⟨rfl, fun names hne => absurd rfl hne⟩
  | download key =>
    rw [perform_download]
    exact ⟨rfl, fun names hne => absurd rfl hne⟩
  | upload key bytes =>
    obtain rfl := Option.some.inj hc
    rcases hupload : b.perform (.upload key bytes) f with ⟨e | ⟨⟩, g⟩
    · -- A failed upload may have created directories above the file.
      have hgrown := grown_of_perform_upload hk hupload
      exact ⟨hgrown.here, fun names hne => habove names (not_imp_comm.1 hgrown.look_of_not hne)⟩
    · have hstored := (stored_of_perform_upload hk hupload).2
      have hrelative := (reachable_of_perform_upload hk hupload).2.1
      refine ⟨hstored.here, fun names hne => ?_⟩
      by_cases hnames : names = b.place f ++ key.names
      · exact ⟨key.names, BlobKey.names_ne_nil hk hrelative, List.prefix_refl _, hnames⟩
      · rcases hstored.look names hnames with heq | ⟨-, -, hnew⟩
        · exact absurd heq hne
        · exact habove names hnew
  | setClass key c =>
    rw [perform_setClass]
    exact ⟨rfl, fun names hne => absurd rfl hne⟩

/-- For every key of segments: it has no file exactly if one of its components is relative, and any
other key has a file whose path goes on from the directory of the bucket by one or more names. What
is asked of the files for the key is asked within the bucket, and whatever becomes of it, nothing
changes but what stands strictly below the directory of the bucket. Where a key is refused, nothing
is created. -/
theorem keys_contained (b : DirectoryBucket) (segments : List String) (k : BlobKey)
    (hk : BlobKey.ofSegments segments = .ok k) :
    ((∃ e, b.blobPath k = .error (.validation e)) ↔
        ['.'] ∈ k.components ∨ ['.', '.'] ∈ k.components) ∧
      (¬ (['.'] ∈ k.components ∨ ['.', '.'] ∈ k.components) →
        ∃ p names, b.blobPath k = .ok p ∧ names ≠ [] ∧ b.root.GoesOn p names) ∧
      (∀ c : Bucket.Call, c.key? = some k →
        (b.plan c).Asks b.Within ∧
          ∀ f : Files, (b.perform c f).2.here = f.here ∧
            ∀ names, (b.perform c f).2.root.look names ≠ f.root.look names →
              ∃ rest, rest ≠ [] ∧ names = b.place f ++ rest) ∧
      ∀ bytes, ['.'] ∈ k.components ∨ ['.', '.'] ∈ k.components →
        (b.plan (.upload k bytes)).Asks (· = .isDirectory b.root) ∧
          ∀ f : Files, b.perform (.upload k bytes) f =
            (.error (if f.isDirectory b.root then .validation (.relativeKey k.text)
              else .storage (.noBucket b.name)), f) := by
  have htrimmed : k.IsTrimmed := BlobKey.IsMade.isTrimmed ⟨segments, hk⟩
  simp only [← BlobKey.isRelative_iff]
  refine ⟨by rw [blobPath_refused_iff, BlobKey.isRelative_iff], fun hnot => ?_,
    fun c hc => ⟨asks_within htrimmed hc, fun f => ?_⟩,
    fun bytes hrelative => ⟨asks_of_isRelative hrelative rfl, fun f => ?_⟩⟩
  · have hpath : b.blobPath k = .ok (b.root.join k.text) := if_neg hnot
    exact ⟨_, k.names, hpath, goesOn_of_blobPath htrimmed hpath⟩
  · obtain ⟨hhere, hlook⟩ := look_of_perform (b := b) (f := f) htrimmed hc
    refine ⟨hhere, fun names hne => ?_⟩
    obtain ⟨rest, hrest, -, hnames⟩ := hlook names hne
    exact ⟨rest, hrest, hnames⟩
  · cases hdir : f.isDirectory b.root with
    | false => exact perform_upload_of_not hdir
    | true => exact perform_upload_of_isRelative hdir hrelative

/-- Slashes around and between the names of a key lead to a file in the bucket, and a step up in the
midst of a key leads nowhere. -/
theorem keys_contained_sample :
    let f := sampleBucket.after [sampleCreation] sampleFiles
    (∃ p names, sampleBucket.blobPath ⟨"dev/a//b".toList⟩ = .ok p ∧ names ≠ [] ∧
        sampleBucket.root.GoesOn p names) ∧
      (∃ e, sampleBucket.blobPath ⟨"dev/../b".toList⟩ = .error (.validation e)) ∧
      sampleBucket.perform (sampleUpload "dev/../b" "two") f =
        (.error (.validation (.relativeKey "dev/../b")), f) := by
  intro f
  have hinside :=
    keys_contained sampleBucket ["dev", "/a//b/"] ⟨"dev/a//b".toList⟩ (by decide +kernel)
  have hup := keys_contained sampleBucket ["dev", "../b"] ⟨"dev/../b".toList⟩ (by decide +kernel)
  have hrefused : ['.'] ∈ BlobKey.components ⟨"dev/../b".toList⟩ ∨
      ['.', '.'] ∈ BlobKey.components ⟨"dev/../b".toList⟩ := by decide +kernel
  refine ⟨hinside.2.1 (by decide +kernel), hup.1.2 hrefused, ?_⟩
  have hupload := (hup.2.2.2 (Bytes.ofText "two") hrefused).2 f
  rwa [if_pos (by decide +kernel)] at hupload

end DeploySync.DirectoryBucket
