import DeploySync.Proofs.Bucket.Isolation
import DeploySync.Proofs.Bucket.Marker

/-!
# A bucket kept as a directory is a map

With keys whose components can be names of files, a bucket that nobody else writes to is a map from
keys to bytes: every key holds what was uploaded last. The directories below that of the bucket are
those above the files, so that an upload fails only where a key above or below its own is in use.

## Main definitions

* `DirectoryBucket.Acceptable` — keys that can be file names
* `DirectoryBucket.WayOutside` — the path of the bucket's directory leads through no directory in it
* `DirectoryBucket.stored?` — the bytes that were uploaded last under a key
* `DirectoryBucket.Mirrors` — the files are those that the history tells of

## Main results

* `DirectoryBucket.Mirrors.step` — every step keeps this
* `DirectoryBucket.serves_map` — what is answered behind any requests
* `DirectoryBucket.not_map` — names of buckets and lengths of paths for which this fails
-/

namespace DeploySync.DirectoryBucket

variable {b : DirectoryBucket} {f g : Files} {k k' : BlobKey} {bytes : ByteArray}
variable {requests : List Request} {history : List Shown}

/-- The components of the key can be the names of files, the first one is not the name of the
marker, and the path is not too long. -/
structure Acceptable (b : DirectoryBucket) (k : BlobKey) : Prop where
  nonempty : [] ∉ k.components
  zero : '\x00' ∉ k.chars
  fits : ∀ c ∈ k.components, (String.ofList c).utf8ByteSize ≤ Files.maxNameLength
  notMarker : k.components.head? ≠ some Marker.fileName.toList
  path : (b.root.join k.text).text.utf8ByteSize ≤ Files.maxPathLength

/-- The path of the bucket's directory leads through no directory below it. -/
def WayOutside (b : DirectoryBucket) (f : Files) : Prop :=
  ∀ before, before <+: b.root.names → b.place f <+: Files.resolve (f.start b.root) before →
    Files.resolve (f.start b.root) before = b.place f

/-- What was uploaded last under a key. -/
def stored? (history : List Shown) (k : BlobKey) : Option ByteArray :=
  (uploads history).reverse.lookup k

theorem readMarker_ofText (b : DirectoryBucket) (text : String) :
    b.readMarker (Bytes.ofText text) = Marker.parse text := by
  rw [readMarker, Files.textOf, Bytes.text?_ofText]
  rfl

/-! ### What was uploaded -/

theorem stored?_congr {history' : List Shown} (h : uploads history' = uploads history) :
    stored? history' k = stored? history k := by
  rw [stored?, stored?, h]

/-- Behind an upload its key holds what was uploaded, and other keys hold what they held. -/
theorem stored?_concat (history : List Shown) (k' : BlobKey) (bytes : ByteArray) (k : BlobKey) :
    stored? (history ++ [⟨.call (.upload k' bytes), .ok ()⟩]) k =
      if k = k' then some bytes else stored? history k := by
  rw [stored?, uploads_concat, List.reverse_append]
  change ((k', bytes) :: (uploads history).reverse).lookup k = _
  rw [List.lookup_cons]
  by_cases hk : k = k'
  · simp [hk]
  · rw [beq_false_of_ne hk, if_neg hk]
    rfl

/-- What a key holds was uploaded under it. -/
theorem mem_uploads_of_stored? (h : stored? history k = some bytes) :
    (k, bytes) ∈ uploads history := by
  obtain ⟨later, earlier, heq, -⟩ := List.lookup_eq_some_iff.1 h
  rw [← List.mem_reverse, heq]
  simp

/-! ### Acceptable keys -/

theorem Acceptable.isTrimmed (hk : b.Acceptable k) : k.IsTrimmed :=
  BlobKey.isTrimmed_of_notMem hk.nonempty

/-- In a bucket that is there the path of an acceptable key can be followed. -/
theorem Acceptable.reachable (hk : b.Acceptable k) (hrelative : k.isRelative = false)
    (hdir : f.isDirectory b.root) : b.Reachable k := by
  obtain ⟨target, hlocate, -⟩ := Files.isDirectory_iff.1 hdir
  obtain ⟨hempty, hzero, -⟩ := Files.pathFault?_eq_none_iff.1 (Files.walk_of_locate hlocate).1
  constructor
  · obtain ⟨s, hjoin, hs⟩ := Path.toList_join_of_head hempty hk.isTrimmed.head
    have hkey := hk.zero
    refine Files.pathFault?_eq_none_iff.2 ⟨?_, ?_, hk.path⟩
    · rw [String.isEmpty_eq_false_iff, Ne, ← String.toList_eq_nil_iff, hjoin]
      simp
    · rw [hjoin, BlobKey.toList_text]
      rcases hs with hs | hs <;> rw [hs] at hzero <;> simpa [hkey] using hzero
  · intro name hname
    rw [BlobKey.names_eq_map_components hk.nonempty hrelative] at hname
    obtain ⟨c, hc, rfl⟩ := List.mem_map.1 hname
    have hfits := hk.fits c hc
    omega

/-- The name of the marker is not the first name of an acceptable key. -/
theorem Acceptable.marker_not_above (hk : b.Acceptable k) (hrelative : k.isRelative = false) :
    ¬ markerKey.names <+: k.names := by
  rw [names_markerKey, BlobKey.names_eq_map_components hk.nonempty hrelative]
  rintro ⟨rest, hrest⟩
  cases hcomponents : k.components with
  | nil =>
    rw [hcomponents] at hrest
    cases hrest
  | cons c more =>
    rw [hcomponents, List.map_cons, List.singleton_append, List.cons.injEq] at hrest
    refine hk.notMarker ?_
    rw [hcomponents, List.head?_cons, hrest.1, String.toList_ofList]

theorem Acceptable.eq_of_names (hk : b.Acceptable k) (hrelative : k.isRelative = false)
    (hk' : b.Acceptable k') (hrelative' : k'.isRelative = false) (h : k.names = k'.names) :
    k = k' := BlobKey.eq_of_names hk.nonempty hrelative hk'.nonempty hrelative' h

/-- Which of two keys is above the other shows in their names. -/
theorem Acceptable.isAbove_iff (hk : b.Acceptable k) (hrelative : k.isRelative = false)
    (hk' : b.Acceptable k') (hrelative' : k'.isRelative = false) :
    k.IsAbove k' ↔ k.names <+: k'.names ∧ k.names ≠ k'.names := by
  rw [BlobKey.IsAbove, BlobKey.names_prefix_iff hk.nonempty hrelative hk'.nonempty hrelative']
  refine and_congr_right fun _ => not_congr ⟨fun h => by rw [h], fun h => ?_⟩
  exact hk.eq_of_names hrelative hk' hrelative' h

/-! ### The files tell the history -/

/-- The files are those that a history tells of: below the directory of the bucket are the files
that were uploaded, the marker, and the directories above uploaded files. -/
structure Mirrors (b : DirectoryBucket) (f : Files) (history : List Shown) : Prop where
  nonempty : b.root.text.isEmpty = false
  wayOutside : b.WayOutside f
  keys : ∀ k bytes, stored? history k = some bytes →
    b.Acceptable k ∧ k.isRelative = false ∧ b.Reachable k
  isDirectory : uploads history ≠ [] ∨ creations history ≠ [] → f.isDirectory b.root
  blobs : ∀ names, names ≠ [] → names ≠ markerKey.names → ∀ bytes,
    f.root.look (b.place f ++ names) = some (some bytes) ↔
      ∃ k, stored? history k = some bytes ∧ k.names = names
  marker : ∀ m, (creations history).getLast? = some m → b.Reachable markerKey ∧ ∃ text,
    m.toYaml = .ok text ∧
      f.root.look (b.place f ++ markerKey.names) = some (some (Bytes.ofText text))
  noMarker : creations history = [] → f.root.look (b.place f ++ markerKey.names) = none
  directories : ∀ names, names ≠ [] → f.root.look (b.place f ++ names) = some none →
    ∃ k, (stored? history k).isSome ∧ names <+: k.names ∧ names ≠ k.names

theorem wayOutside_of_here (hhere : g.here = f.here) (h : b.WayOutside f) : b.WayOutside g := by
  intro before hbefore hlead
  rw [place_eq_of_here hhere, Files.start, hhere] at *
  exact h before hbefore hlead

/-- The path of a bucket in a directory leads through nothing below the bucket if its name does not
go up and nothing is in its place. -/
theorem wayOutside_of_notMem (hbase : f.isDirectory b.base) (hhead : b.name.toList.head? ≠ some '/')
    (hup : Files.up ∉ Path.namesOf b.name.toList) (hnone : f.root.look (b.place f) = none) :
    b.WayOutside f := by
  obtain ⟨target, hlocate, -⟩ := Files.isDirectory_iff.1 hbase
  have hwalk := (Files.walk_of_locate hlocate).2
  have hstart : f.start b.root = f.start b.base := by
    rw [Files.start, Files.start, root, Path.isAbsolute_join_of_head hhead]
  have hnames : b.root.names = b.base.names ++ Path.namesOf b.name.toList :=
    Path.names_join_of_head hhead
  have htarget : Files.resolve (f.start b.base) b.base.names = target :=
    (Files.eq_resolve_of_walk hwalk).symm
  have hplace : b.place f = target ++ Path.namesOf b.name.toList := by
    rw [place, hstart, hnames, Files.resolve_append, htarget, Files.resolve_of_notMem hup]
  intro before hbefore hlead
  rw [hstart] at hlead ⊢
  rw [hnames] at hbefore
  rcases List.prefix_or_prefix_of_prefix hbefore (List.prefix_append _ _) with
    ⟨more, hmore⟩ | ⟨more, rfl⟩
  · cases more with
    | nil =>
      rw [List.append_nil] at hmore
      rw [hplace, hmore, htarget] at hlead ⊢
      exact (hlead.eq_of_length_le (by simp)).symm
    | cons name rest =>
      -- a directory that is there, so that the bucket is not in it
      rw [← hmore] at hwalk
      have hlook := (Files.look_resolve_of_walk hwalk).2
      obtain ⟨below, hbelow⟩ := hlead
      rw [← hbelow, Files.Entry.look_append_of_none hnone] at hlook
      cases hlook
  · have hmore : more <+: Path.namesOf b.name.toList := by
      rwa [List.prefix_append_right_inj] at hbefore
    rw [Files.resolve_append, htarget,
      Files.resolve_of_notMem fun h => hup (hmore.subset h)] at hlead ⊢
    rw [hplace] at hlead ⊢
    rw [hmore.eq_of_length_le]
    simpa using hlead.length_le

/-- No place on the way to the directory of the bucket is below it. -/
theorem WayOutside.not_below {names : List String} (h : b.WayOutside f) (hnames : names ≠ []) :
    ¬ b.IsOnTheWay f (b.place f ++ names) := by
  rintro ⟨before, -, hbefore, htarget⟩
  have hplace := h before hbefore (htarget ▸ List.prefix_append _ _)
  rw [hplace] at htarget
  exact hnames (List.append_right_eq_self.1 htarget)

/-- A bucket whose directory is not there holds nothing. -/
theorem mirrors_of_look (hroot : b.root.text.isEmpty = false) (hway : b.WayOutside f)
    (hnone : f.root.look (b.place f) = none) : b.Mirrors f [] := by
  have hbelow : ∀ names, f.root.look (b.place f ++ names) = none := fun names =>
    Files.Entry.look_append_of_none hnone names
  refine ⟨hroot, hway, fun k bytes h => (by cases h), fun h => (by simp [uploads, creations] at h),
    fun names _ _ bytes => ?_, fun m h => (by cases h), fun _ => hbelow _, fun names _ h => ?_⟩
  · rw [hbelow names]
    refine ⟨fun h => (by cases h), ?_⟩
    rintro ⟨k, hk, -⟩
    cases hk
  · rw [hbelow names] at h
    cases h

/-- What was answered matters as far as something was uploaded or created. -/
theorem Mirrors.congr {history' : List Shown} (h : b.Mirrors f history)
    (huploads : uploads history' = uploads history)
    (hcreations : creations history' = creations history) : b.Mirrors f history' := by
  have hstored : ∀ k, stored? history' k = stored? history k := fun k => stored?_congr huploads
  constructor
  · exact h.nonempty
  · exact h.wayOutside
  · simpa only [hstored] using h.keys
  · simpa only [huploads, hcreations] using h.isDirectory
  · simpa only [hstored] using h.blobs
  · simpa only [hcreations] using h.marker
  · simpa only [hcreations] using h.noMarker
  · simpa only [hstored] using h.directories

/-- Directories on the way to that of the bucket do not matter. -/
theorem Mirrors.grown (h : b.Mirrors f history) (hg : Files.Grown f g (b.IsOnTheWay f)) :
    b.Mirrors g history := by
  have hplace : b.place g = b.place f := place_eq_of_here hg.here
  have hbelow : ∀ names, names ≠ [] →
      g.root.look (b.place g ++ names) = f.root.look (b.place f ++ names) := by
    intro names hnames
    rw [hplace]
    exact hg.look_of_not (h.wayOutside.not_below hnames)
  refine ⟨h.nonempty, wayOutside_of_here hg.here h.wayOutside, h.keys,
    fun hused => isDirectory_of_grown hg (h.isDirectory hused),
    fun names hnames hmarker bytes => ?_,
    fun m hm => ?_, fun hnone => ?_, fun names hnames hdirectory => ?_⟩
  · rw [hbelow names hnames]
    exact h.blobs names hnames hmarker bytes
  · rw [hbelow _ (by simp)]
    exact h.marker m hm
  · rw [hbelow _ (by simp)]
    exact h.noMarker hnone
  · rw [hbelow names hnames] at hdirectory
    exact h.directories names hnames hdirectory

/-- Creating the bucket puts the marker there and leaves everything else. -/
theorem Mirrors.create {location : String} {c : StorageClass} (h : b.Mirrors f history)
    (hsuccess : b.perform (.createBucket location c) f = (.ok (), g)) :
    b.Mirrors g (history ++ [⟨.call (.createBucket location c), .ok ()⟩]) := by
  have hdir := isDirectory_of_perform_create h.nonempty hsuccess
  obtain ⟨text, hyaml, hreach, -, hstored⟩ := stored_of_perform_create hsuccess
  have huploads : uploads (history ++ [⟨.call (.createBucket location c), .ok ()⟩]) =
      uploads history := uploads_concat_of_none rfl
  have hcreations : creations (history ++ [⟨.call (.createBucket location c), .ok ()⟩]) =
      creations history ++ [⟨location, c⟩] := creations_concat _ _
  -- new directories stand on the way to the bucket, and so not below it
  have hbelow : ∀ names, names ≠ [] → names ≠ markerKey.names →
      g.root.look (b.place g ++ names) = f.root.look (b.place f ++ names) := by
    intro names hnames hmarker
    exact (look_of_stored_of_ne hstored hmarker).resolve_right fun hnew =>
      h.wayOutside.not_below hnames hnew.2.2
  refine ⟨h.nonempty, wayOutside_of_here hstored.here h.wayOutside, ?_, fun _ => hdir, ?_, ?_, ?_,
    ?_⟩
  · simpa only [stored?_congr huploads] using h.keys
  · intro names hnames hmarker bytes
    rw [hbelow names hnames hmarker, h.blobs names hnames hmarker]
    simp only [stored?_congr huploads]
  · intro m hm
    rw [hcreations, List.getLast?_concat] at hm
    obtain rfl := Option.some.inj hm
    exact ⟨hreach, text, hyaml, look_of_stored hstored⟩
  · intro hnone
    rw [hcreations] at hnone
    simp at hnone
  · intro names hnames hdirectory
    have hmarker : names ≠ markerKey.names := by
      rintro rfl
      rw [look_of_stored hstored] at hdirectory
      cases hdirectory
    rw [hbelow names hnames hmarker] at hdirectory
    obtain ⟨k, hk, habove⟩ := h.directories names hnames hdirectory
    exact ⟨k, by rwa [stored?_congr huploads], habove⟩

section Stored

variable {names : List String} {old : ByteArray}

/-- The marker is neither the file of an acceptable key nor a directory above it. -/
theorem look_marker_of_stored (hk : b.Acceptable k) (hrelative : k.isRelative = false)
    (hstored : Files.Stored f g (b.IsAboveFile f k) (b.place f ++ k.names) bytes) :
    g.root.look (b.place g ++ markerKey.names) = f.root.look (b.place f ++ markerKey.names) := by
  have hne : markerKey.names ≠ k.names := fun heq =>
    hk.marker_not_above hrelative (heq ▸ List.prefix_refl _)
  refine (look_of_stored_of_ne hstored hne).resolve_right ?_
  rintro ⟨-, -, before, -, hbefore, heq⟩
  obtain rfl := List.append_cancel_left heq
  exact hk.marker_not_above hrelative (hbefore.trans (List.dropLast_prefix _))

/-- Behind an upload the files are those of the keys in use, of which its key is one now. -/
theorem Mirrors.blobs_of_stored (h : b.Mirrors f history) (hk : b.Acceptable k)
    (hrelative : k.isRelative = false)
    (hstored : Files.Stored f g (b.IsAboveFile f k) (b.place f ++ k.names) bytes)
    (hnames : names ≠ []) (hmarker : names ≠ markerKey.names) :
    g.root.look (b.place g ++ names) = some (some old) ↔
      ∃ k', stored? (history ++ [⟨.call (.upload k bytes), .ok ()⟩]) k' = some old ∧
        k'.names = names := by
  simp only [stored?_concat]
  by_cases hself : names = k.names
  · -- the file that was written; no other key that holds something has its names
    rw [hself, look_of_stored hstored]
    constructor
    · intro hbytes
      obtain rfl := Option.some.inj (Option.some.inj hbytes)
      exact ⟨k, if_pos rfl, rfl⟩
    · rintro ⟨k', hk', hk'names⟩
      split_ifs at hk' with heq
      · rw [Option.some.inj hk']
      · obtain ⟨hacceptable, hrelative', -⟩ := h.keys k' old hk'
        exact absurd (hacceptable.eq_of_names hrelative' hk hrelative hk'names) heq
  · rw [file_iff_of_stored hstored hself, h.blobs names hnames hmarker]
    refine exists_congr fun k' => and_congr_left fun hk'names => ?_
    rw [if_neg]
    rintro rfl
    exact hself hk'names.symm

/-- Behind an upload each directory is above a key in use. -/
theorem Mirrors.directories_of_stored (h : b.Mirrors f history)
    (hstored : Files.Stored f g (b.IsAboveFile f k) (b.place f ++ k.names) bytes)
    (hnames : names ≠ []) (hdirectory : g.root.look (b.place g ++ names) = some none) :
    ∃ k', (stored? (history ++ [⟨.call (.upload k bytes), .ok ()⟩]) k').isSome ∧
      names <+: k'.names ∧ names ≠ k'.names := by
  simp only [stored?_concat]
  have hself : names ≠ k.names := by
    rintro rfl
    rw [look_of_stored hstored] at hdirectory
    cases hdirectory
  rcases look_of_stored_of_ne hstored hself with hsame | ⟨-, -, before, -, hbefore, heq⟩
  · rw [hsame] at hdirectory
    obtain ⟨k', hk', habove⟩ := h.directories names hnames hdirectory
    refine ⟨k', ?_, habove⟩
    split_ifs
    · rfl
    · exact hk'
  · -- one of the directories that were missing above the file
    obtain rfl := List.append_cancel_left heq
    refine ⟨k, ?_, hbefore.trans (List.dropLast_prefix _), hself⟩
    rw [if_pos rfl]
    rfl

end Stored

/-- An upload puts its file there, with the directories above it, and leaves everything else. -/
theorem Mirrors.upload (h : b.Mirrors f history) (hk : b.Acceptable k)
    (hsuccess : b.perform (.upload k bytes) f = (.ok (), g)) :
    b.Mirrors g (history ++ [⟨.call (.upload k bytes), .ok ()⟩]) := by
  obtain ⟨hdir, hrelative, hreach⟩ := reachable_of_perform_upload hk.isTrimmed hsuccess
  obtain ⟨-, hstored⟩ := stored_of_perform_upload hk.isTrimmed hsuccess
  have hcreations : creations (history ++ [⟨.call (.upload k bytes), .ok ()⟩]) =
      creations history := creations_concat_of_none rfl
  have hmarker := look_marker_of_stored hk hrelative hstored
  constructor
  case nonempty => exact h.nonempty
  case wayOutside => exact wayOutside_of_here hstored.here h.wayOutside
  case keys =>
    intro k' bytes' hbytes'
    rw [stored?_concat] at hbytes'
    -- what is stored under the key is new, and under the others it is what it was
    split_ifs at hbytes' with heq
    · rw [heq]
      exact ⟨hk, hrelative, hreach⟩
    · exact h.keys k' bytes' hbytes'
  case isDirectory => exact fun _ => isDirectory_of_stored hstored hdir
  case blobs =>
    intro names hnames hmarker' old
    exact h.blobs_of_stored hk hrelative hstored hnames hmarker'
  case marker =>
    rw [hcreations, hmarker]
    exact h.marker
  case noMarker =>
    rw [hcreations, hmarker]
    exact h.noMarker
  case directories =>
    intro names hnames hdirectory
    exact h.directories_of_stored hstored hnames hdirectory

/-- Whatever a request does, the files tell what was answered. -/
theorem Mirrors.step {x : Shown} (h : b.Mirrors f history) (hkeys : ∀ k ∈ x.1.key?, b.Acceptable k)
    (hstep : b.Step f x g) : b.Mirrors g (history ++ [x]) := by
  cases hstep with
  | asked huploaded hcreated =>
    exact h.congr (uploads_concat_of_none huploaded) (creations_concat_of_none hcreated)
  | uploaded _ hsuccess => exact h.upload (hkeys _ rfl) hsuccess
  | notUploaded _ hunchanged =>
    have hk := hkeys _ rfl
    obtain rfl := hunchanged fun hdir hrelative => hk.reachable hrelative hdir
    exact h.congr (uploads_concat_of_none rfl) (creations_concat_of_none rfl)
  | created hsuccess => exact h.create hsuccess
  | notCreated hgrown =>
    exact (h.grown hgrown).congr (uploads_concat_of_none rfl) (creations_concat_of_none rfl)

/-- Behind any requests the files tell what was answered. -/
theorem mirrors_after (hroot : b.root.text.isEmpty = false) (hway : b.WayOutside f)
    (hnone : f.root.look (b.place f) = none)
    (hkeys : ∀ r ∈ requests, ∀ k ∈ r.key?, b.Acceptable k) :
    b.Mirrors (b.after requests f) (b.shown requests f) :=
  after_invariant (I := fun f history => b.Mirrors f history)
    (fun _ _ _ _ hx hstep h => h.step (hkeys _ hx) hstep)
    (fun r hr k hk => (hkeys r hr k hk).isTrimmed) (mirrors_of_look hroot hway hnone)

/-! ### What is answered -/

/-- A key holds what was uploaded last under it. -/
theorem Mirrors.blob?_eq (h : b.Mirrors f history) (hk : b.Acceptable k)
    (hrelative : k.isRelative = false) : b.blob? f k = stored? history k := by
  have hne : k.names ≠ [] := BlobKey.names_ne_nil hk.isTrimmed hrelative
  have hmarker : k.names ≠ markerKey.names := fun heq =>
    hk.marker_not_above hrelative (heq ▸ List.prefix_refl _)
  ext bytes
  rw [blob?_eq_some_iff hk.isTrimmed, h.blobs _ hne hmarker]
  constructor
  · rintro ⟨-, -, -, k', hk', hnames⟩
    obtain ⟨hacceptable, hrelative', -⟩ := h.keys k' bytes hk'
    rwa [hacceptable.eq_of_names hrelative' hk hrelative hnames] at hk'
  · intro hstored
    have hdir := h.isDirectory (.inl (List.ne_nil_of_mem (mem_uploads_of_stored? hstored)))
    obtain ⟨-, hwalk, -⟩ := directory_of_isDirectory hdir
    exact ⟨hrelative, (h.keys k bytes hstored).2.2, hwalk, k, hstored, rfl⟩

/-- A key in use is a file at its names. -/
theorem Mirrors.exists_file (h : b.Mirrors f history) (hk : (stored? history k).isSome) :
    b.Acceptable k ∧ k.isRelative = false ∧
      ∃ bytes, f.root.look (b.place f ++ k.names) = some (some bytes) := by
  obtain ⟨bytes, hbytes⟩ := Option.isSome_iff_exists.1 hk
  obtain ⟨hacceptable, hrelative, -⟩ := h.keys k bytes hbytes
  have hne := BlobKey.names_ne_nil hacceptable.isTrimmed hrelative
  have hmarker : k.names ≠ markerKey.names := fun heq =>
    hacceptable.marker_not_above hrelative (heq ▸ List.prefix_refl _)
  exact ⟨hacceptable, hrelative, bytes, (h.blobs _ hne hmarker bytes).2 ⟨k, hbytes, rfl⟩⟩

/-- Above or below a key whose file has room no key is in use. -/
theorem Mirrors.not_isAbove_of_hasRoom (h : b.Mirrors f history) (hk : b.Acceptable k)
    (hrelative : k.isRelative = false) (hroom : b.HasRoom f k) (hk' : (stored? history k').isSome) :
    ¬ k'.IsAbove k ∧ ¬ k.IsAbove k' := by
  obtain ⟨hacceptable, hrelative', bytes, hlook⟩ := h.exists_file hk'
  have hne : k.names ≠ [] := BlobKey.names_ne_nil hk.isTrimmed hrelative
  constructor
  · intro habove
    -- the file of a key above would stand above the file
    obtain ⟨hlead, hnames⟩ := (hacceptable.isAbove_iff hrelative' hk hrelative).1 habove
    rw [← List.dropLast_append_getLast hne, List.prefix_concat_iff] at hlead
    rw [List.dropLast_append_getLast hne] at hlead
    exact hroom.above _ (hlead.resolve_left hnames) bytes hlook
  · intro hbelow
    -- a directory above the file of a key below would stand in its place
    obtain ⟨⟨rest, hrest⟩, hnames⟩ := (hk.isAbove_iff hrelative hacceptable hrelative').1 hbelow
    cases rest with
    | nil => exact hnames (by rw [← hrest, List.append_nil])
    | cons name rest =>
      have hne : f.root.look ((b.place f ++ k.names) ++ name :: rest) ≠ none := by
        rw [List.append_assoc, hrest, hlook]
        simp
      exact hroom.self (Files.Entry.look_of_append hne)

/-- A file has room if no key above or below its own is in use. -/
theorem Mirrors.hasRoom (h : b.Mirrors f history) (hplace : f.root.look (b.place f) = some none)
    (hk : b.Acceptable k) (hrelative : k.isRelative = false)
    (hfree : ∀ k', (stored? history k').isSome → ¬ k'.IsAbove k ∧ ¬ k.IsAbove k') :
    b.HasRoom f k := by
  have hne : k.names ≠ [] := BlobKey.names_ne_nil hk.isTrimmed hrelative
  constructor
  case above =>
    intro before hbefore bytes hlook
    have hbeforeNe : before ≠ [] := by
      rintro rfl
      rw [List.append_nil, hplace] at hlook
      cases hlook
    have hlead : before <+: k.names := hbefore.trans (List.dropLast_prefix _)
    have hmarker : before ≠ markerKey.names := fun heq =>
      hk.marker_not_above hrelative (heq ▸ hlead)
    -- a file in the way is that of a key, and this key would be above `k`
    obtain ⟨k', hk', rfl⟩ := (h.blobs before hbeforeNe hmarker bytes).1 hlook
    obtain ⟨hacceptable, hrelative', -⟩ := h.keys k' bytes hk'
    exact (hfree k' (by rw [hk']; rfl)).1
      ((hacceptable.isAbove_iff hrelative' hk hrelative).2 ⟨hlead, fun heq =>
        BlobKey.not_prefix_above hk.isTrimmed hrelative (heq ▸ hbefore)⟩)
  case self =>
    intro hdirectory
    -- a directory is there only above the file of some key
    obtain ⟨k', hk', habove⟩ := h.directories _ hne hdirectory
    obtain ⟨hacceptable, hrelative', -⟩ := h.exists_file hk'
    exact (hfree k' hk').2 ((hk.isAbove_iff hrelative hacceptable hrelative').2 habove)

/-- Nothing is in the way of a file exactly if no key above or below its own is in use. -/
theorem Mirrors.hasRoom_iff (h : b.Mirrors f history) (hdir : f.isDirectory b.root)
    (hk : b.Acceptable k) (hrelative : k.isRelative = false) :
    b.HasRoom f k ↔ ∀ k', (stored? history k').isSome → ¬ k'.IsAbove k ∧ ¬ k.IsAbove k' := by
  obtain ⟨-, -, hplace⟩ := directory_of_isDirectory hdir
  exact ⟨fun hroom k' hk' => h.not_isAbove_of_hasRoom hk hrelative hroom hk',
    h.hasRoom hplace hk hrelative⟩

/-- An upload succeeds exactly if the bucket is there and no key above or below is in use. -/
theorem Mirrors.upload_iff (h : b.Mirrors f history) (hk : b.Acceptable k)
    (hrelative : k.isRelative = false) (bytes : ByteArray) :
    (b.perform (.upload k bytes) f).1 = .ok () ↔ f.isDirectory b.root ∧
      ∀ k', (stored? history k').isSome → ¬ k'.IsAbove k ∧ ¬ k.IsAbove k' := by
  constructor
  · intro hsuccess
    have hperform : b.perform (.upload k bytes) f =
        (.ok (), (b.perform (.upload k bytes) f).2) := Prod.ext hsuccess rfl
    have hdir := (reachable_of_perform_upload hk.isTrimmed hperform).1
    exact ⟨hdir, (h.hasRoom_iff hdir hk hrelative).1
      (stored_of_perform_upload hk.isTrimmed hperform).1⟩
  · rintro ⟨hdir, hfree⟩
    obtain ⟨g, hperform, -⟩ := perform_upload_of_hasRoom hdir hk.isTrimmed hrelative
      (hk.reachable hrelative hdir) ((h.hasRoom_iff hdir hk hrelative).2 hfree) bytes
    exact congrArg Prod.fst hperform

/-- The bucket says how it was created last. -/
theorem Mirrors.settings_eq (h : b.Mirrors f history) :
    b.settings f = .ok (creations history).getLast? := by
  cases hlast : (creations history).getLast? with
  | none => exact settings_of_none (h.noMarker (List.getLast?_eq_none_iff.1 hlast))
  | some m =>
    obtain ⟨hreach, text, hyaml, hlook⟩ := h.marker m hlast
    obtain ⟨text', hyaml', hparse⟩ := m.parse_toYaml
    obtain rfl : text = text' := Except.ok.inj (hyaml.symm.trans hyaml')
    have hmem : m ∈ creations history := List.mem_of_getLast? hlast
    have hdir := h.isDirectory (.inr (List.ne_nil_of_mem hmem))
    obtain ⟨-, hwalk, -⟩ := directory_of_isDirectory hdir
    have hblob := (blob?_eq_some_iff isTrimmed_markerKey).2
      ⟨isRelative_markerKey, hreach, hwalk, hlook⟩
    rw [settings_of_blob? hblob, readMarker_ofText, hparse]
    rfl

/-- What is answered on files is what a map from keys to bytes would answer behind a history. -/
structure AnswersAsMap (b : DirectoryBucket) (f : Files) (history : List Shown) : Prop where
  refused : ∀ k, k.isRelative →
    (b.perform (.blobExists k) f).1 = .error (.validation (.relativeKey k.text)) ∧
      (b.perform (.download k) f).1 = .error (.validation (.relativeKey k.text)) ∧
      (∀ c, (b.perform (.setClass k c) f).1 = .error (.validation (.relativeKey k.text))) ∧
      ((b.perform .bucketExists f).1 = .ok true → ∀ bytes,
        (b.perform (.upload k bytes) f).1 = .error (.validation (.relativeKey k.text)))
  blobExists : ∀ k, b.Acceptable k → k.isRelative = false →
    (b.perform (.blobExists k) f).1 = .ok (stored? history k).isSome
  download : ∀ k, b.Acceptable k → k.isRelative = false → ∀ bytes,
    (b.perform (.download k) f).1 = .ok bytes ↔ stored? history k = some bytes
  setClass : ∀ k, b.Acceptable k → k.isRelative = false → ∀ c,
    (b.perform (.setClass k c) f).1 = .ok () ↔ (stored? history k).isSome
  upload : ∀ k, b.Acceptable k → k.isRelative = false → ∀ bytes,
    (b.perform (.upload k bytes) f).1 = .ok () ↔ (b.perform .bucketExists f).1 = .ok true ∧
      ∀ k', (stored? history k').isSome → ¬ k'.IsAbove k ∧ ¬ k.IsAbove k'
  bucketExists : creations history ≠ [] → (b.perform .bucketExists f).1 = .ok true
  settings : b.settings f = .ok (creations history).getLast?
  failed : ∀ r e, (∀ k ∈ r.key?, b.Acceptable k) → (b.answer r f).1 = .error e →
    b.settings (b.answer r f).2 = b.settings f ∧ ∀ k, b.Acceptable k → k.isRelative = false →
      (b.perform (.blobExists k) (b.answer r f).2).1 = (b.perform (.blobExists k) f).1 ∧
        (b.perform (.download k) (b.answer r f).2).1 = (b.perform (.download k) f).1

theorem bucketExists_iff : (b.perform .bucketExists f).1 = .ok true ↔ f.isDirectory b.root := by
  rw [perform_bucketExists]
  exact ⟨Except.ok.inj, congrArg Except.ok⟩

theorem uploaded?_error (r : Request) (e : Error) : uploaded? ⟨r, .error e⟩ = none := by
  rcases r with ⟨c⟩ | -
  · cases c <;> rfl
  · rfl

theorem created?_error (r : Request) (e : Error) : created? ⟨r, .error e⟩ = none := by
  rcases r with ⟨c⟩ | -
  · cases c <;> rfl
  · rfl

/-- What fails changes nothing that is answered. -/
theorem Mirrors.failed {r : Request} {e : Error} (h : b.Mirrors f history)
    (hkeys : ∀ k ∈ r.key?, b.Acceptable k)
    (hfailed : (b.answer r f).1 = .error e) :
    b.settings (b.answer r f).2 = b.settings f ∧ ∀ k, b.Acceptable k → k.isRelative = false →
      b.blob? (b.answer r f).2 k = b.blob? f k := by
  have hstep := answer_step (b := b) r (fun k hk => (hkeys k hk).isTrimmed) f
  rw [hfailed] at hstep
  have hnext := (h.step hkeys hstep).congr (uploads_concat_of_none (uploaded?_error r e)).symm
    (creations_concat_of_none (created?_error r e)).symm
  refine ⟨by rw [hnext.settings_eq, h.settings_eq], fun k hk hrelative => ?_⟩
  rw [hnext.blob?_eq hk hrelative, h.blob?_eq hk hrelative]

/-- Where the files tell the history, the answers are those of a map. -/
theorem Mirrors.answersAsMap (h : b.Mirrors f history) : b.AnswersAsMap f history where
  refused k hrelative := by
    simp only [perform_blobExists, perform_download, perform_setClass, hrelative, if_true,
      bucketExists_iff, implies_true, true_and]
    intro hdir bytes
    rw [perform_upload_of_isRelative hdir hrelative]
  blobExists k hk hrelative := by
    rw [perform_blobExists, h.blob?_eq hk hrelative, hrelative]
    rfl
  download k hk hrelative bytes := by
    rw [perform_download, h.blob?_eq hk hrelative, hrelative]
    cases stored? history k with
    | none => simp
    | some old =>
      exact ⟨fun h => congrArg some (Except.ok.inj h), fun h => congrArg _ (Option.some.inj h)⟩
  setClass k hk hrelative c := by
    rw [perform_setClass, h.blob?_eq hk hrelative, hrelative]
    cases stored? history k <;> simp
  upload k hk hrelative bytes := by
    rw [h.upload_iff hk hrelative, bucketExists_iff]
  bucketExists hcreated := bucketExists_iff.2 (h.isDirectory (.inr hcreated))
  settings := h.settings_eq
  failed r e hkeys hfailed := by
    obtain ⟨hsettings, hblobs⟩ := h.failed hkeys hfailed
    refine ⟨hsettings, fun k hk hrelative => ?_⟩
    simp only [perform_blobExists, perform_download, hblobs k hk hrelative, and_self]

/-- A bucket of which nothing was there, with a path that leads through no directory in it, answers
behind any requests about acceptable keys as a map from keys to bytes would. -/
theorem serves_map (hbase : f.isDirectory b.base) (hway : b.WayOutside f)
    (hnone : f.root.look (b.place f) = none)
    (hkeys : ∀ r ∈ requests, ∀ k ∈ r.key?, b.Acceptable k) :
    b.AnswersAsMap (b.after requests f) (b.shown requests f) := by
  have hroot : b.root.text.isEmpty = false := by
    obtain ⟨target, hlocate, -⟩ := Files.isDirectory_iff.1 hbase
    exact Path.isEmpty_join
      (Files.pathFault?_eq_none_iff.1 (Files.walk_of_locate hlocate).1).1 b.name
  exact (mirrors_after hroot hway hnone hkeys).answersAsMap

/-- Requests about a key, and about one above it. -/
def sampleRequests : List Request :=
  [sampleCreation, .call (sampleUpload "dev/a" "one"), .call (sampleUpload "dev" "two"),
    .call (sampleUpload "dev/a" "three")]

theorem acceptable_sample : sampleBucket.Acceptable ⟨"dev/a".toList⟩ ∧
    sampleBucket.Acceptable ⟨"dev".toList⟩ := by
  constructor <;> constructor <;> decide +kernel

/-- The key holds what was uploaded last, and the key above it cannot be used. -/
theorem serves_map_sample :
    let f := sampleBucket.after sampleRequests sampleFiles
    (sampleBucket.perform (.download ⟨"dev/a".toList⟩) f).1 = .ok (Bytes.ofText "three") ∧
      (sampleBucket.perform (sampleUpload "dev" "two") f).1 ≠ .ok () ∧
      sampleBucket.settings f = .ok (some ⟨"me-west1", .standard⟩) := by
  intro f
  have hnone : sampleFiles.root.look (sampleBucket.place sampleFiles) = none := by decide +kernel
  have hbase : sampleFiles.isDirectory sampleBucket.base := by decide +kernel
  obtain ⟨hbelow, habove⟩ := acceptable_sample
  have hkeys : ∀ r ∈ sampleRequests, ∀ k ∈ r.key?, sampleBucket.Acceptable k := by
    simpa [sampleRequests, sampleCreation, sampleUpload, Request.key?, Bucket.Call.key?]
      using And.intro hbelow (And.intro habove hbelow)
  have hcreations : creations (sampleBucket.shown sampleRequests sampleFiles) =
      [⟨"me-west1", .standard⟩] := by decide +kernel
  have hmap := serves_map hbase
    (wayOutside_of_notMem hbase (by decide +kernel) (by decide +kernel) hnone) hnone hkeys
  have hstored : stored? (sampleBucket.shown sampleRequests sampleFiles) ⟨"dev/a".toList⟩ =
      some (Bytes.ofText "three") := by decide +kernel
  refine ⟨(hmap.download _ hbelow rfl _).2 hstored, fun hupload => ?_, ?_⟩
  · have hfree := ((hmap.upload _ habove rfl _).1 hupload).2 ⟨"dev/a".toList⟩
      (by decide +kernel)
    exact hfree.2 ⟨by decide +kernel, by decide +kernel⟩
  · rw [hmap.settings, hcreations]
    rfl

/-! ### Names that lead into the bucket, and paths that are too long -/

/-- Every character takes a byte. -/
theorem length_le_utf8ByteSize (s : String) : s.toList.length ≤ s.utf8ByteSize := by
  have hchars : ∀ chars : List Char, chars.length ≤ chars.utf8Encode.size := by
    intro chars
    induction chars with
    | nil => simp
    | cons c rest ih =>
      have hc := c.utf8Size_pos
      rw [List.utf8Encode_cons, ByteArray.size_append, List.utf8Encode_singleton,
        List.size_toByteArray, String.length_utf8EncodeChar, List.length_cons]
      omega
  have hs := hchars s.toList
  rwa [String.utf8Encode_toList] at hs

/-- A file whose path is too long cannot be written. -/
theorem upload_ne_ok_of_length (hk : k.IsTrimmed) (hlength : Files.maxPathLength < k.chars.length)
    (bytes : ByteArray) (f : Files) : (b.perform (.upload k bytes) f).1 ≠ .ok () := by
  intro hsuccess
  obtain ⟨-, -, hreach⟩ := reachable_of_perform_upload (b := b) (f := f) hk (Prod.ext hsuccess rfl)
  have hpath := (Files.pathFault?_eq_none_iff.1 hreach.path).2.2
  obtain ⟨s, hs⟩ := Path.exists_toList_join b.root k.text
  have hchars := length_le_utf8ByteSize (b.root.join k.text).text
  rw [hs, List.length_append, BlobKey.toList_text] at hchars
  omega

/-- A key of many long components. -/
def longKey : BlobKey := ⟨Text.join [BlobKey.slash] (List.replicate 17 (List.replicate 250 'k'))⟩

theorem components_longKey : longKey.components = List.replicate 17 (List.replicate 250 'k') := by
  refine Text.split_join (mt (List.replicate_eq_nil_iff _).1 (by decide)) fun piece hpiece => ?_
  rw [List.eq_of_mem_replicate hpiece, List.mem_replicate]
  decide

/-- In a bucket whose name goes through a directory in it and up again, that directory is in the way
of a blob, and a key can be too long although its components are not. Nothing is stored in either of
the buckets, which are there. -/
theorem not_map :
    let inside : DirectoryBucket := ⟨⟨"/buckets"⟩, "n/y/.."⟩
    let f := inside.after [sampleCreation] sampleFiles
    let g := sampleBucket.after [sampleCreation] sampleFiles
    (sampleFiles.isDirectory inside.base ∧ sampleFiles.root.look (inside.place sampleFiles) = none ∧
        inside.Acceptable ⟨['y']⟩ ∧ uploads (inside.shown [sampleCreation] sampleFiles) = [] ∧
        (inside.perform .bucketExists f).1 = .ok true ∧
        (inside.perform (sampleUpload "y" "one") f).1 ≠ .ok ()) ∧
      sampleFiles.isDirectory sampleBucket.base ∧
        sampleFiles.root.look (sampleBucket.place sampleFiles) = none ∧
        [] ∉ longKey.components ∧ '\x00' ∉ longKey.chars ∧ longKey.isRelative = false ∧
        (∀ c ∈ longKey.components, (String.ofList c).utf8ByteSize ≤ Files.maxNameLength) ∧
        longKey.components.head? ≠ some Marker.fileName.toList ∧
        uploads (sampleBucket.shown [sampleCreation] sampleFiles) = [] ∧
        (sampleBucket.perform .bucketExists g).1 = .ok true ∧
        ∀ bytes, (sampleBucket.perform (.upload longKey bytes) g).1 ≠ .ok () := by
  intro inside f g
  have hfails : ¬ (inside.perform (sampleUpload "y" "one") f).1.isOk := by decide +kernel
  have hlong : [] ∉ longKey.components := by
    rw [components_longKey, List.mem_replicate]
    decide
  refine ⟨⟨by decide +kernel, by decide +kernel, by constructor <;> decide +kernel,
    by decide +kernel, bucketExists_iff.2 (by decide +kernel), fun h => hfails (by rw [h]; rfl)⟩,
    by decide +kernel, by decide +kernel, hlong, ?_, ?_, ?_, ?_, by decide +kernel,
    bucketExists_iff.2 (by decide +kernel), fun bytes => ?_⟩
  · exact Text.notMem_join (by decide) fun piece hpiece => by
      rw [List.eq_of_mem_replicate hpiece, List.mem_replicate]
      decide
  · rw [BlobKey.isRelative, components_longKey]
    decide +kernel
  · rw [components_longKey]
    intro c hc
    rw [List.eq_of_mem_replicate hc]
    decide +kernel
  · rw [components_longKey]
    decide +kernel
  · -- each component is short, and their path is longer than a path may be
    refine upload_ne_ok_of_length (BlobKey.isTrimmed_of_notMem hlong) ?_ bytes g
    refine Nat.lt_of_lt_of_le ?_ (Text.length_flatten_le_join _ _)
    rw [List.length_flatten, List.map_replicate, List.length_replicate, List.sum_replicate_nat]
    decide

end DeploySync.DirectoryBucket
