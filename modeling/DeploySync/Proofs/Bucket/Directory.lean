import DeploySync.Bucket.Directory
import DeploySync.Proofs.Bucket.Keys
import DeploySync.Proofs.Plan

/-!
# What calls do to a bucket kept as a directory

The blobs of a bucket are the files below the place to which the path of its directory leads. Calls
that ask for a blob see this file and nothing else. An upload adds the directories that are missing
above its file and then the file; creating the bucket adds directories and the marker.

## Main definitions

* `DirectoryBucket.place` — where the directory of a bucket is
* `DirectoryBucket.blob?` — the bytes under a key
* `DirectoryBucket.settings` — how the bucket says that it was created
* `DirectoryBucket.Reachable` — the path of a key is one that can be followed
* `DirectoryBucket.HasRoom` — nothing is in the way of a file

## Main results

* `blob?_eq_some_iff` — the blob under a key is the file at its names
* `perform_blobExists`, `perform_download`, `perform_setClass` — what asks for a blob
* `perform_upload_of_hasRoom`, `perform_upload_of_not_hasRoom` — whether an upload succeeds
* `perform_create` — what creating the bucket does
-/

namespace DeploySync

namespace Files

variable {f : Files} {p : Path} {bytes : ByteArray}

/-- A path names a file exactly if it can be read. -/
theorem isFile_eq (f : Files) (p : Path) : f.isFile p = (f.read p).toOption.isSome := by
  rw [isFile, entry?, read]
  rcases f.locate p with fault | place
  · rfl
  · dsimp only
    rcases f.root.get? place with _ | _ | _ <;> rfl

end Files

namespace DirectoryBucket

variable {b : DirectoryBucket} {f f' g : Files} {k k' : BlobKey} {bytes : ByteArray} {e : Error}
variable {names : List String}

/-- The names to which the path of the bucket's directory leads. -/
def place (b : DirectoryBucket) (f : Files) : List String :=
  Files.resolve (f.start b.root) b.root.names

/-- The bytes under a key, if there are any. -/
def blob? (b : DirectoryBucket) (f : Files) (k : BlobKey) : Option ByteArray :=
  if k.isRelative then none else (f.read (b.root.join k.text)).toOption

/-- How the marker of the bucket says that it was created. -/
def settings (b : DirectoryBucket) (f : Files) : Except Error (Option Marker) :=
  (b.marker.run Files.perform f).1

/-- The path of a key is not too long, and none of its names is. -/
structure Reachable (b : DirectoryBucket) (k : BlobKey) : Prop where
  path : Files.pathFault? (b.root.join k.text) = none
  names : ∀ name ∈ k.names, ¬ Files.maxNameLength < name.utf8ByteSize

theorem Reachable.above (h : b.Reachable k) :
    ∀ name ∈ k.names.dropLast, ¬ Files.maxNameLength < name.utf8ByteSize := fun name hname =>
  h.names name (List.dropLast_subset _ hname)

/-! ### Blobs that are there -/

theorem start_join (hk : k.IsTrimmed) : f.start (b.root.join k.text) = f.start b.root := by
  rw [Files.start, Files.start, BlobKey.isAbsolute_join hk]

/-- The blob under a key is the file at its names below the directory of the bucket. -/
theorem blob?_eq_some_iff (hk : k.IsTrimmed) :
    b.blob? f k = some bytes ↔
      k.isRelative = false ∧ b.Reachable k ∧
        Files.walk f.root (f.start b.root) b.root.names = .ok (b.place f) ∧
        f.root.look (b.place f ++ k.names) = some (some bytes) := by
  rw [blob?]
  cases hrelative : k.isRelative with
  | true => simp
  | false =>
    have hup := BlobKey.up_notMem_names hrelative
    have hread : (f.read (b.root.join k.text)).toOption = some bytes ↔
        f.read (b.root.join k.text) = .ok bytes := by
      cases f.read (b.root.join k.text) <;> simp [Except.toOption]
    simp only [Bool.false_eq_true, if_false, true_and]
    rw [hread, Files.read_eq_ok_iff]
    constructor
    · rintro ⟨target, hlocate, hlook⟩
      obtain ⟨hpath, hwalk⟩ := Files.walk_of_locate hlocate
      rw [BlobKey.names_join hk, start_join hk] at hwalk
      -- there is a name behind those of the bucket, so that its directory is gone through
      obtain ⟨name, rest, hnames⟩ :=
        List.exists_cons_of_ne_nil (BlobKey.names_ne_nil hk hrelative)
      have hroot : Files.walk f.root (f.start b.root) b.root.names = .ok (b.place f) := by
        rw [hnames] at hwalk
        exact (Files.look_resolve_of_walk hwalk).1
      rw [Files.walk_append_of_walk hroot] at hwalk
      obtain rfl := Files.eq_resolve_of_walk hwalk
      rw [Files.resolve_of_notMem hup] at hlook
      exact ⟨⟨hpath, Files.fits_of_walk hwalk⟩, hroot, hlook⟩
    · rintro ⟨hreach, hroot, hlook⟩
      have hwalk : Files.walk f.root (f.start b.root) (b.root.names ++ k.names) =
          .ok (b.place f ++ k.names) := by
        rw [Files.walk_append_of_walk hroot]
        exact Files.walk_below hup hreach.names (by rw [hlook]; simp)
      refine ⟨b.place f ++ k.names, ?_, hlook⟩
      simp only [Files.locate_eq, hreach.path, BlobKey.names_join hk, start_join hk, hwalk, hlook,
        BlobKey.namesDirectory_join hk hrelative, Bool.false_eq_true, if_false]

/-! ### Asking for blobs -/

/-- A path that is asked for names a file if it can be read. -/
theorem run_isFile (f : Files) (p : Path) :
    (Plan.call (.isFile p) : FilePlan _).run Files.perform f =
      (.ok (f.read p).toOption.isSome, f) := by
  rw [Plan.run_call, Files.perform, Files.isFile_eq]

theorem perform_bucketExists (b : DirectoryBucket) (f : Files) :
    b.perform .bucketExists f = (.ok (f.isDirectory b.root), f) := rfl

theorem perform_blobExists (b : DirectoryBucket) (f : Files) (k : BlobKey) :
    b.perform (.blobExists k) f =
      (if k.isRelative then .error (.validation (.relativeKey k.text))
        else .ok (b.blob? f k).isSome, f) := by
  rw [blob?, perform, plan, blobPath]
  by_cases hrelative : k.isRelative
  · rw [if_pos hrelative, if_pos hrelative]
    rfl
  · rw [if_neg hrelative, if_neg hrelative, if_neg hrelative, ← Files.isFile_eq]
    rfl

theorem perform_download (b : DirectoryBucket) (f : Files) (k : BlobKey) :
    b.perform (.download k) f =
      (if k.isRelative then .error (.validation (.relativeKey k.text))
        else match b.blob? f k with
          | some bytes => .ok bytes
          | none => .error (b.missing k), f) := by
  rw [blob?, perform, plan, download, blobPath]
  by_cases hrelative : k.isRelative
  · rw [if_pos hrelative, if_pos hrelative]
    rfl
  · rw [if_neg hrelative, if_neg hrelative, if_neg hrelative]
    refine (Plan.run_bind_ok (run_isFile f (b.root.join k.text)) _).trans ?_
    cases hread : f.read (b.root.join k.text) with
    | error fault => rfl
    | ok bytes =>
      refine (Plan.run_call _ _ _).trans ?_
      rw [Files.perform, hread]
      rfl

theorem perform_setClass (b : DirectoryBucket) (f : Files) (k : BlobKey) (c : StorageClass) :
    b.perform (.setClass k c) f =
      (if k.isRelative then .error (.validation (.relativeKey k.text))
        else if (b.blob? f k).isSome then .ok () else .error (b.missing k), f) := by
  rw [blob?, perform, plan, setClass, blobPath]
  by_cases hrelative : k.isRelative
  · rw [if_pos hrelative, if_pos hrelative]
    rfl
  · rw [if_neg hrelative, if_neg hrelative, if_neg hrelative]
    refine (Plan.run_bind_ok (run_isFile f (b.root.join k.text)) _).trans ?_
    cases (f.read (b.root.join k.text)).toOption <;> rfl

/-! ### Uploads -/

theorem run_createDirectories (f : Files) (p : Path) :
    (Plan.call (.createDirectories p) : FilePlan _).run Files.perform f =
      (Files.failed p (f.createDirectories p).1, (f.createDirectories p).2) :=
  Plan.run_call _ _ _

theorem run_write (f : Files) (p : Path) (bytes : ByteArray) :
    (Plan.call (.write p bytes) : FilePlan _).run Files.perform f =
      match f.write p bytes with
      | .error fault => (.error (.localFile p fault), f)
      | .ok g => (.ok (), g) := by
  rw [Plan.run_call, Files.perform]
  cases f.write p bytes <;> rfl

/-- There is no blob in a bucket that is not there. -/
theorem perform_upload_of_not (hdir : f.isDirectory b.root = false) :
    b.perform (.upload k bytes) f = (.error (.storage (.noBucket b.name)), f) := by
  refine (Plan.run_bind_ok (congrArg (fun x => (Except.ok x, f)) hdir) _).trans ?_
  rfl

theorem perform_upload_of_isRelative (hdir : f.isDirectory b.root) (hrelative : k.isRelative) :
    b.perform (.upload k bytes) f = (.error (.validation (.relativeKey k.text)), f) := by
  refine (Plan.run_bind_ok (congrArg (fun x => (Except.ok x, f)) hdir) _).trans ?_
  exact Plan.run_bind_error (congrArg (fun x => (x, f)) (if_pos hrelative)) _

/-- An upload creates the directories above its file, and then it writes the file. -/
theorem perform_upload_eq {parent : Path} (hdir : f.isDirectory b.root)
    (hrelative : k.isRelative = false) (hparent : (b.root.join k.text).parent? = some parent) :
    b.perform (.upload k bytes) f =
      match f.createDirectories parent with
      | (.error fault, g) => (.error (.localFile parent fault), g)
      | (.ok (), g) =>
        match g.write (b.root.join k.text) bytes with
        | .error fault => (.error (.localFile (b.root.join k.text) fault), g)
        | .ok h => (.ok (), h) := by
  have hpath : b.blobPath k = .ok (b.root.join k.text) := if_neg (by simp [hrelative])
  refine (Plan.run_bind_ok (congrArg (fun x => (Except.ok x, f)) hdir) _).trans ?_
  refine (Plan.run_bind_ok (congrArg (fun x => (x, f)) hpath) _).trans ?_
  simp only [hparent]
  rcases hcreate : f.createDirectories parent with ⟨fault | ⟨⟩, g⟩
  · have hrun := run_createDirectories f parent
    rw [hcreate] at hrun
    exact Plan.run_bind_error hrun _
  · have hrun := run_createDirectories f parent
    rw [hcreate] at hrun
    exact (Plan.run_bind_ok hrun _).trans (run_write g (b.root.join k.text) bytes)

/-- Nothing is in the way of a file: no file stands above it, and no directory in its place. -/
structure HasRoom (b : DirectoryBucket) (f : Files) (k : BlobKey) : Prop where
  above : f.root.Free (b.place f) k.names.dropLast
  self : f.root.look (b.place f ++ k.names) ≠ some none

/-- A place above the file of a key, below the directory of the bucket. -/
def IsAboveFile (b : DirectoryBucket) (f : Files) (k : BlobKey) (names : List String) : Prop :=
  ∃ before, before ≠ [] ∧ before <+: k.names.dropLast ∧ names = b.place f ++ before

theorem place_eq_of_here (hhere : g.here = f.here) : b.place g = b.place f := by
  rw [place, place, Files.start, Files.start, hhere]

/-- A bucket is there if its path leads to a directory. -/
theorem isDirectory_root_iff :
    f.isDirectory b.root ↔
      Files.pathFault? b.root = none ∧
        Files.walk f.root (f.start b.root) b.root.names = .ok (b.place f) ∧
        f.root.look (b.place f) = some none := by
  rw [Files.isDirectory_iff]
  constructor
  · rintro ⟨target, hlocate, hlook⟩
    obtain ⟨hpath, hwalk⟩ := Files.walk_of_locate hlocate
    obtain rfl := Files.eq_resolve_of_walk hwalk
    exact ⟨hpath, hwalk, hlook⟩
  · rintro ⟨hpath, hwalk, hlook⟩
    refine ⟨b.place f, ?_, hlook⟩
    simp only [Files.locate_eq, hpath, hwalk, hlook]

/-- A bucket that is there is a directory at its place. -/
theorem directory_of_isDirectory (hdir : f.isDirectory b.root) :
    b.root.text.isEmpty = false ∧
      Files.walk f.root (f.start b.root) b.root.names = .ok (b.place f) ∧
      f.root.look (b.place f) = some none := by
  obtain ⟨hpath, hwalk, hlook⟩ := isDirectory_root_iff.1 hdir
  exact ⟨(Files.pathFault?_eq_none_iff.1 hpath).1, hwalk, hlook⟩

/-- A bucket that is there stays where directories are added. -/
theorem isDirectory_of_grown {Q : List String → Prop} (hg : Files.Grown f g Q)
    (hdir : f.isDirectory b.root) : g.isDirectory b.root := by
  obtain ⟨hpath, hwalk, hlook⟩ := isDirectory_root_iff.1 hdir
  rw [isDirectory_root_iff, place_eq_of_here hg.here, Files.start, hg.here]
  exact ⟨hpath, hg.walk hwalk, hg.directory hlook⟩

/-- A bucket that is there stays where a file is stored. -/
theorem isDirectory_of_stored {Q : List String → Prop} {target : List String}
    (hg : Files.Stored f g Q target bytes) (hdir : f.isDirectory b.root) :
    g.isDirectory b.root := by
  obtain ⟨hpath, hwalk, hlook⟩ := isDirectory_root_iff.1 hdir
  rw [isDirectory_root_iff, place_eq_of_here hg.here, Files.start, hg.here]
  exact ⟨hpath, hg.walk hwalk, hg.directory hlook⟩

section Stored

variable {Q : List String → Prop} {target names : List String} {old : ByteArray}

/-- The file that was stored stands below the directory of the bucket. -/
theorem look_of_stored (hg : Files.Stored f g Q (b.place f ++ target) bytes) :
    g.root.look (b.place g ++ target) = some (some bytes) := by
  rw [place_eq_of_here hg.here]
  exact hg.file

/-- What else stands there stood there before, or it is a new directory. -/
theorem look_of_stored_of_ne (hg : Files.Stored f g Q (b.place f ++ target) bytes)
    (hnames : names ≠ target) :
    g.root.look (b.place g ++ names) = f.root.look (b.place f ++ names) ∨
      f.root.look (b.place f ++ names) = none ∧ g.root.look (b.place g ++ names) = some none ∧
        Q (b.place f ++ names) := by
  rw [place_eq_of_here hg.here]
  exact hg.look _ fun heq => hnames (List.append_cancel_left heq)

/-- The other files there stay as they are, and no others come. -/
theorem file_iff_of_stored (hg : Files.Stored f g Q (b.place f ++ target) bytes)
    (hnames : names ≠ target) :
    g.root.look (b.place g ++ names) = some (some old) ↔
      f.root.look (b.place f ++ names) = some (some old) := by
  rw [place_eq_of_here hg.here]
  exact hg.file_iff fun heq => hnames (List.append_cancel_left heq)

end Stored

/-- The parent of the path of a key stands for the directories above its file. -/
theorem exists_parent (hk : k.IsTrimmed) (hrelative : k.isRelative = false)
    (hreach : b.Reachable k) :
    ∃ parent, (b.root.join k.text).parent? = some parent ∧
      ∀ f : Files, f.createDirectories parent =
        f.createUpwards (f.start b.root) (b.root.names ++ k.names.dropLast).reverse := by
  obtain ⟨parent, hparent, hnames, habsolute, -, htext⟩ :=
    BlobKey.exists_parent_join hk hrelative b.root
  obtain ⟨hzero, hlength⟩ := Files.noFault_of_prefix hreach.path htext
  refine ⟨parent, hparent, fun f => ?_⟩
  rw [Files.createDirectories_eq hzero hlength, Files.start, Files.start, habsolute, hnames]

/-- Where its directory is there, and no directory in its place, the file of a key can be
written. -/
theorem exists_lands (hk : k.IsTrimmed) (hrelative : k.isRelative = false) (hreach : b.Reachable k)
    (hwalk : Files.walk f.root (f.start b.root) b.root.names = .ok (b.place f))
    (habove : f.root.look (b.place f ++ k.names.dropLast) = some none)
    (hself : f.root.look (b.place f ++ k.names) ≠ some none) :
    ∃ last, k.names = k.names.dropLast ++ [last] ∧
      f.Lands (b.root.join k.text) (b.place f ++ k.names.dropLast) last := by
  obtain ⟨above, last, hlast⟩ :=
    (List.eq_nil_or_concat k.names).resolve_left (BlobKey.names_ne_nil hk hrelative)
  rw [List.concat_eq_append] at hlast
  have hdropLast : k.names.dropLast = above := by rw [hlast, List.dropLast_concat]
  have hup := BlobKey.up_notMem_names hrelative
  have hfits := hreach.names
  have hnames : (b.root.join k.text).names = b.root.names ++ above ++ [last] := by
    rw [BlobKey.names_join hk, hlast, List.append_assoc]
  rw [hdropLast] at habove ⊢
  rw [hlast] at hup hfits hself
  refine ⟨last, hlast, hreach.path, by rw [hnames, List.dropLast_concat], ?_, habove, ?_, ?_, ?_,
    BlobKey.namesDirectory_join hk hrelative b.root⟩
  · rw [hnames, List.dropLast_concat, start_join hk, Files.walk_append_of_walk hwalk]
    exact Files.walk_below (fun h => hup (List.mem_append_left _ h))
      (fun name hname => hfits name (List.mem_append_left _ hname)) (by rw [habove]; simp)
  · exact fun h => hup (by simp [h])
  · exact hfits last (by simp)
  · rwa [List.append_assoc]

/-- The file of a key is written at the names of the key. -/
theorem reachable_of_lands {above : List String} {last : String} (hk : k.IsTrimmed)
    (hrelative : k.isRelative = false) (hlands : f.Lands (b.root.join k.text) above last) :
    b.Reachable k ∧ Files.walk f.root (f.start b.root) b.root.names = .ok (b.place f) ∧
      above ++ [last] = b.place f ++ k.names := by
  have hne := BlobKey.names_ne_nil hk hrelative
  have hnames := hlands.names
  have hwalk := hlands.walk
  rw [BlobKey.names_join hk, List.dropLast_append_of_ne_nil hne] at hnames hwalk
  rw [start_join hk] at hwalk
  rw [List.append_assoc] at hnames
  have hlast := List.append_cancel_left hnames
  have hroot : Files.walk f.root (f.start b.root) b.root.names = .ok (b.place f) := by
    -- the directory of the file is that of the bucket, or it is reached through it
    cases hrest : k.names.dropLast with
    | nil =>
      rw [hrest, List.append_nil] at hwalk
      rw [hwalk, place, Files.eq_resolve_of_walk hwalk]
    | cons name rest =>
      rw [hrest] at hwalk
      exact (Files.look_resolve_of_walk hwalk).1
  rw [Files.walk_append_of_walk hroot] at hwalk
  have habove := Files.eq_resolve_of_walk hwalk
  rw [Files.resolve_of_notMem (BlobKey.up_notMem_above hrelative)] at habove
  refine ⟨⟨hlands.path, fun name hname => ?_⟩, hroot, by rw [habove, List.append_assoc, ← hlast]⟩
  rw [hlast, List.mem_append, List.mem_singleton] at hname
  rcases hname with hname | rfl
  · exact Files.fits_of_walk hwalk name hname
  · exact hlands.fits

/-- Where nothing is in the way of its file an upload succeeds, and it adds nothing but the file and
the directories above it. -/
theorem perform_upload_of_hasRoom (hdir : f.isDirectory b.root) (hk : k.IsTrimmed)
    (hrelative : k.isRelative = false) (hreach : b.Reachable k) (hroom : b.HasRoom f k)
    (bytes : ByteArray) :
    ∃ g, b.perform (.upload k bytes) f = (.ok (), g) ∧
      Files.Stored f g (b.IsAboveFile f k) (b.place f ++ k.names) bytes := by
  obtain ⟨hroot, hwalk, hplace⟩ := directory_of_isDirectory hdir
  obtain ⟨parent, hparent, hparents⟩ := exists_parent hk hrelative hreach
  -- the directories
  obtain ⟨g, hcreate, hdirectory, hgrown⟩ := Files.createUpwards_of_free hwalk hplace
    (BlobKey.up_notMem_above hrelative) hreach.above hroom.above
  rw [← hparents] at hcreate
  have hself : g.root.look (b.place f ++ k.names) ≠ some none := by
    rw [hgrown.look_of_not]
    · exact hroom.self
    · rintro ⟨before, -, hbefore, hnames⟩
      rw [← List.append_cancel_left hnames] at hbefore
      exact BlobKey.not_prefix_above hk hrelative hbefore
  -- and the file
  have hplace' : b.place g = b.place f := place_eq_of_here hgrown.here
  obtain ⟨last, hlast, hlands⟩ := exists_lands (f := g) hk hrelative hreach
    (by rw [hplace', Files.start, hgrown.here]; exact hgrown.walk hwalk) (by rwa [hplace'])
    (by rwa [hplace'])
  have hwrite : g.write (b.root.join k.text) bytes = .ok (g.withFile _ bytes) :=
    Files.write_eq_ok_iff.2 ⟨_, _, hlands, rfl⟩
  have hstored := hgrown.stored hlands bytes
  rw [List.append_assoc, ← hlast, hplace'] at hwrite hstored
  refine ⟨g.withFile (b.place f ++ k.names) bytes, ?_, hstored⟩
  simp only [perform_upload_eq hdir hrelative hparent, hcreate, hwrite]

/-- Where a directory stands in the place of its file an upload fails and changes nothing. -/
theorem perform_upload_of_directory (hdir : f.isDirectory b.root) (hk : k.IsTrimmed)
    (hrelative : k.isRelative = false) (hreach : b.Reachable k)
    (hself : f.root.look (b.place f ++ k.names) = some none) (bytes : ByteArray) :
    ∃ e, b.perform (.upload k bytes) f = (.error e, f) := by
  obtain ⟨hroot, hwalk, hplace⟩ := directory_of_isDirectory hdir
  obtain ⟨parent, hparent, hparents⟩ := exists_parent hk hrelative hreach
  have hdirectory : f.root.look (b.place f ++ k.names.dropLast) = some none := by
    have hnames := List.dropLast_concat_getLast (BlobKey.names_ne_nil hk hrelative)
    rw [← hnames, ← List.append_assoc] at hself
    exact Files.Entry.look_of_append (by rw [hself]; simp)
  have hwalk' : Files.walk f.root (f.start b.root) (b.root.names ++ k.names.dropLast) =
      .ok (b.place f ++ k.names.dropLast) := by
    rw [Files.walk_append_of_walk hwalk]
    exact Files.walk_below (BlobKey.up_notMem_above hrelative) hreach.above
      (by rw [hdirectory]; simp)
  rw [perform_upload_eq hdir hrelative hparent, hparents]
  simp only [Files.createUpwards_of_walk hwalk' hdirectory]
  -- only the write is left to do, and a file lands on no directory
  cases hwrite : f.write (b.root.join k.text) bytes with
  | error fault => exact ⟨_, rfl⟩
  | ok g =>
    obtain ⟨place, last, hlands, -⟩ := Files.write_eq_ok_iff.1 hwrite
    obtain ⟨-, -, htarget⟩ := reachable_of_lands hk hrelative hlands
    exact absurd hself (htarget ▸ hlands.notDirectory)

/-- Where a file stands above its file an upload fails and changes nothing. -/
theorem perform_upload_of_file_above (hdir : f.isDirectory b.root) (hk : k.IsTrimmed)
    (hrelative : k.isRelative = false) (hreach : b.Reachable k)
    (habove : ¬ f.root.Free (b.place f) k.names.dropLast) (bytes : ByteArray) :
    ∃ e, b.perform (.upload k bytes) f = (.error e, f) := by
  obtain ⟨hroot, hwalk, hplace⟩ := directory_of_isDirectory hdir
  obtain ⟨parent, hparent, hparents⟩ := exists_parent hk hrelative hreach
  simp only [Files.Entry.Free, not_forall, not_not] at habove
  obtain ⟨before, hbefore, bytes', hfile⟩ := habove
  have hne : before ≠ [] := by
    rintro rfl
    rw [List.append_nil, hplace] at hfile
    cases hfile
  obtain ⟨fault, hcreate⟩ := Files.createUpwards_of_file hwalk (BlobKey.up_notMem_above hrelative)
    hreach.above hbefore hne hfile
  rw [perform_upload_eq hdir hrelative hparent, hparents]
  simp only [hcreate]
  exact ⟨_, rfl⟩

/-- Where something is in the way of its file an upload fails and changes nothing. -/
theorem perform_upload_of_not_hasRoom (hdir : f.isDirectory b.root) (hk : k.IsTrimmed)
    (hrelative : k.isRelative = false) (hreach : b.Reachable k) (hroom : ¬ b.HasRoom f k)
    (bytes : ByteArray) : ∃ e, b.perform (.upload k bytes) f = (.error e, f) := by
  by_cases habove : f.root.Free (b.place f) k.names.dropLast
  · refine perform_upload_of_directory hdir hk hrelative hreach ?_ bytes
    by_contra hself
    exact hroom ⟨habove, hself⟩
  · exact perform_upload_of_file_above hdir hk hrelative hreach habove bytes

/-- Whatever becomes of an upload, it succeeds only if its path can be followed. -/
theorem reachable_of_perform_upload (hk : k.IsTrimmed)
    (h : b.perform (.upload k bytes) f = (.ok (), g)) :
    f.isDirectory b.root ∧ k.isRelative = false ∧ b.Reachable k := by
  have hdir : f.isDirectory b.root := by
    by_contra hnot
    rw [perform_upload_of_not (by simpa using hnot)] at h
    cases h
  have hrelative : k.isRelative = false := by
    by_contra hnot
    rw [perform_upload_of_isRelative hdir (by simpa using hnot)] at h
    cases h
  obtain ⟨hroot, -, -⟩ := directory_of_isDirectory hdir
  obtain ⟨parent, hparent, -⟩ := BlobKey.exists_parent_join hk hrelative b.root
  rw [perform_upload_eq hdir hrelative hparent] at h
  rcases hcreate : f.createDirectories parent with ⟨fault | ⟨⟩, g'⟩
  · simp [hcreate] at h
  · cases hwrite : g'.write (b.root.join k.text) bytes with
    | error fault => simp [hcreate, hwrite] at h
    | ok g'' =>
      obtain ⟨place, last, hlands, -⟩ := Files.write_eq_ok_iff.1 hwrite
      exact ⟨hdir, hrelative, (reachable_of_lands hk hrelative hlands).1⟩

/-- What a successful upload found and left behind. -/
theorem stored_of_perform_upload (hk : k.IsTrimmed)
    (h : b.perform (.upload k bytes) f = (.ok (), g)) :
    b.HasRoom f k ∧ Files.Stored f g (b.IsAboveFile f k) (b.place f ++ k.names) bytes := by
  obtain ⟨hdir, hrelative, hreach⟩ := reachable_of_perform_upload hk h
  have hroom : b.HasRoom f k := by
    by_contra hnot
    obtain ⟨e, he⟩ := perform_upload_of_not_hasRoom hdir hk hrelative hreach hnot bytes
    rw [he] at h
    cases h
  obtain ⟨g', hg', hstored⟩ := perform_upload_of_hasRoom hdir hk hrelative hreach hroom bytes
  rw [hg'] at h
  obtain rfl := (Prod.mk.inj h).2
  exact ⟨hroom, hstored⟩

/-- What is new on the way to the file of a key stands below the directory of the bucket. -/
theorem isAboveFile_of_new {before : List String} (hdir : f.isDirectory b.root)
    (hrelative : k.isRelative = false) (hbefore : before <+: b.root.names ++ k.names.dropLast)
    (hnew : f.root.look (Files.resolve (f.start b.root) before) = none) :
    b.IsAboveFile f k (Files.resolve (f.start b.root) before) := by
  obtain ⟨-, hwalk, hplace⟩ := directory_of_isDirectory hdir
  rcases List.prefix_or_prefix_of_prefix hbefore (List.prefix_append b.root.names _) with
    ⟨more, hmore⟩ | ⟨rest, rfl⟩
  · -- the names that lead to the bucket lead to directories
    have hthere : f.root.look (Files.resolve (f.start b.root) before) = some none := by
      cases more with
      | nil =>
        rw [List.append_nil] at hmore
        rw [hmore]
        exact hplace
      | cons name more =>
        rw [← hmore] at hwalk
        exact (Files.look_resolve_of_walk hwalk).2
    rw [hthere] at hnew
    cases hnew
  · have hrest := (List.prefix_append_right_inj _).1 hbefore
    have hup : Files.up ∉ rest := fun h => BlobKey.up_notMem_above hrelative (hrest.subset h)
    rw [Files.resolve_append, Files.resolve_of_notMem hup] at hnew ⊢
    refine ⟨rest, ?_, hrest, rfl⟩
    rintro rfl
    rw [List.append_nil] at hnew
    rw [place, hnew] at hplace
    cases hplace

/-- An upload that fails leaves nothing behind but directories above its file. -/
theorem grown_of_perform_upload (hk : k.IsTrimmed)
    (h : b.perform (.upload k bytes) f = (.error e, g)) :
    Files.Grown f g (b.IsAboveFile f k) := by
  cases hdir : f.isDirectory b.root with
  | false =>
    rw [perform_upload_of_not hdir] at h
    rw [← (Prod.mk.inj h).2]
    exact .refl f _
  | true =>
    cases hrelative : k.isRelative with
    | true =>
      rw [perform_upload_of_isRelative hdir hrelative] at h
      rw [← (Prod.mk.inj h).2]
      exact .refl f _
    | false =>
      obtain ⟨parent, hparent, hnames, habsolute, -⟩ :=
        BlobKey.exists_parent_join hk hrelative b.root
      -- what is created on the way down is below the directory of the bucket, which is there
      have hgrown := (Files.grown_createDirectories f parent).mono (R := b.IsAboveFile f k) <| by
        rintro target hnew ⟨before, -, hbefore, rfl⟩
        rw [Files.start, habsolute] at hnew ⊢
        exact isAboveFile_of_new hdir hrelative (hnames ▸ hbefore) hnew
      rw [perform_upload_eq hdir hrelative hparent] at h
      rcases hcreate : f.createDirectories parent with ⟨fault | ⟨⟩, g'⟩
      · simp only [hcreate, Prod.mk.injEq] at h
        rw [hcreate] at hgrown
        exact h.2 ▸ hgrown
      · rw [hcreate] at hgrown
        cases hwrite : g'.write (b.root.join k.text) bytes with
        | error fault =>
          simp only [hcreate, hwrite, Prod.mk.injEq] at h
          exact h.2 ▸ hgrown
        | ok g'' => simp [hcreate, hwrite] at h

/-- The path of the bucket's directory can be followed behind an upload, too. -/
theorem walk_of_perform_upload (hk : k.IsTrimmed)
    (h : b.perform (.upload k bytes) f = (.ok (), g)) :
    Files.walk g.root (g.start b.root) b.root.names = .ok (b.place g) := by
  obtain ⟨-, hwalk, -⟩ := directory_of_isDirectory (reachable_of_perform_upload hk h).1
  have hstored := (stored_of_perform_upload hk h).2
  rw [place_eq_of_here hstored.here, Files.start, hstored.here]
  exact hstored.walk hwalk

/-- What was uploaded is under every key that spells the same names. -/
theorem blob?_of_perform_upload (hk : k.IsTrimmed) (hk' : k'.IsTrimmed)
    (h : b.perform (.upload k bytes) f = (.ok (), g)) (hnames : k'.names = k.names)
    (hrelative' : k'.isRelative = false)
    (hpath : Files.pathFault? (b.root.join k'.text) = none) : b.blob? g k' = some bytes := by
  have hreach := (reachable_of_perform_upload hk h).2.2
  have hstored := (stored_of_perform_upload hk h).2
  refine (blob?_eq_some_iff hk').2
    ⟨hrelative', ⟨hpath, hnames ▸ hreach.names⟩, walk_of_perform_upload hk h, ?_⟩
  rw [hnames]
  exact look_of_stored hstored

/-- An upload leaves the blobs under keys that spell other names. -/
theorem blob?_of_perform_upload_of_ne (hk : k.IsTrimmed) (hk' : k'.IsTrimmed)
    (h : b.perform (.upload k bytes) f = (.ok (), g)) (hnames : k'.names ≠ k.names) :
    b.blob? g k' = b.blob? f k' := by
  obtain ⟨-, hwalk, -⟩ := directory_of_isDirectory (reachable_of_perform_upload hk h).1
  have hwalk' := walk_of_perform_upload hk h
  have hstored := (stored_of_perform_upload hk h).2
  ext old
  rw [blob?_eq_some_iff hk', blob?_eq_some_iff hk', file_iff_of_stored hstored hnames]
  simp only [hwalk', hwalk, true_and]

/-! ### Creating the bucket -/

/-- A place on the way to the directory of the bucket. -/
def IsOnTheWay (b : DirectoryBucket) (f : Files) (names : List String) : Prop :=
  ∃ before, before ≠ [] ∧ before <+: b.root.names ∧
    names = Files.resolve (f.start b.root) before

/-- The key that spells the name of the marker. -/
def markerKey : BlobKey := ⟨Marker.fileName.toList⟩

theorem isTrimmed_markerKey : markerKey.IsTrimmed := ⟨by decide, by decide⟩

@[simp] theorem isRelative_markerKey : markerKey.isRelative = false := by decide

@[simp] theorem names_markerKey : markerKey.names = [Marker.fileName] := by decide

theorem eq_markerKey_of_text (h : k.text = Marker.fileName) : k = markerKey := by
  cases k
  rw [markerKey, ← h, BlobKey.toList_text]

theorem markerPath_eq (b : DirectoryBucket) : b.markerPath = b.root.join markerKey.text := by
  rw [markerPath, markerKey, BlobKey.text, String.ofList_toList]

/-- Creating the bucket creates its directory, and then it writes the marker. -/
theorem perform_create (b : DirectoryBucket) (location : String) (c : StorageClass) (f : Files) :
    b.perform (.createBucket location c) f =
      match f.createDirectories b.root with
      | (.error fault, g) => (.error (.localFile b.root fault), g)
      | (.ok (), g) =>
        match Marker.toYaml ⟨location, c⟩ with
        | .error e => (.error e, g)
        | .ok text =>
          match g.write b.markerPath (Bytes.ofText text) with
          | .error fault => (.error (.localFile b.markerPath fault), g)
          | .ok h => (.ok (), h) := by
  have hrun := run_createDirectories f b.root
  rcases hcreate : f.createDirectories b.root with ⟨fault | ⟨⟩, g⟩
  · rw [hcreate] at hrun
    exact Plan.run_bind_error hrun _
  · rw [hcreate] at hrun
    refine (Plan.run_bind_ok hrun _).trans ?_
    cases hyaml : Marker.toYaml ⟨location, c⟩ with
    | error e => rfl
    | ok text => exact run_write g b.markerPath (Bytes.ofText text)

/-- Creating the bucket fails with nothing but directories left behind, or the marker is stored. -/
theorem grown_of_perform_create {location : String} {c : StorageClass}
    (h : b.perform (.createBucket location c) f = (.error e, g)) :
    Files.Grown f g (b.IsOnTheWay f) := by
  have hgrown := Files.grown_createDirectories f b.root
  rw [perform_create] at h
  rcases hcreate : f.createDirectories b.root with ⟨fault | ⟨⟩, g'⟩
  · simp only [hcreate, Prod.mk.injEq] at h
    rw [hcreate] at hgrown
    exact h.2 ▸ hgrown
  · rw [hcreate] at hgrown
    cases hyaml : Marker.toYaml ⟨location, c⟩ with
    | error e' =>
      simp only [hcreate, hyaml, Prod.mk.injEq] at h
      exact h.2 ▸ hgrown
    | ok text =>
      cases hwrite : g'.write b.markerPath (Bytes.ofText text) with
      | error fault =>
        simp only [hcreate, hyaml, hwrite, Prod.mk.injEq] at h
        exact h.2 ▸ hgrown
      | ok g'' => simp [hcreate, hyaml, hwrite] at h

/-- What creating the bucket leaves behind. -/
theorem stored_of_perform_create {location : String} {c : StorageClass}
    (h : b.perform (.createBucket location c) f = (.ok (), g)) :
    ∃ text, Marker.toYaml ⟨location, c⟩ = .ok text ∧ b.Reachable markerKey ∧
      Files.walk g.root (g.start b.root) b.root.names = .ok (b.place g) ∧
      Files.Stored f g (b.IsOnTheWay f) (b.place f ++ markerKey.names) (Bytes.ofText text) := by
  have hgrown := Files.grown_createDirectories f b.root
  rw [perform_create] at h
  rcases hcreate : f.createDirectories b.root with ⟨fault | ⟨⟩, g'⟩
  · simp [hcreate] at h
  · rw [hcreate] at hgrown
    cases hyaml : Marker.toYaml ⟨location, c⟩ with
    | error e' => simp [hcreate, hyaml] at h
    | ok text =>
      cases hwrite : g'.write b.markerPath (Bytes.ofText text) with
      | error fault => simp [hcreate, hyaml, hwrite] at h
      | ok g'' =>
        simp only [hcreate, hyaml, hwrite, Prod.mk.injEq, true_and] at h
        subst h
        -- the marker lands in the new directory, and the tree has grown before by directories only
        obtain ⟨place, last, hlands, rfl⟩ := Files.write_eq_ok_iff.1 hwrite
        rw [markerPath_eq] at hlands
        obtain ⟨hreach, hwalk, htarget⟩ :=
          reachable_of_lands isTrimmed_markerKey isRelative_markerKey hlands
        have hstored := hgrown.stored hlands (Bytes.ofText text)
        have hplace : b.place g' = b.place f := place_eq_of_here hgrown.here
        rw [htarget, hplace] at hstored
        refine ⟨text, rfl, hreach, ?_, by rwa [htarget, hplace]⟩
        exact hlands.walk_withFile _ hwalk

/-- A bucket that was created is there. -/
theorem isDirectory_of_perform_create {location : String} {c : StorageClass}
    (hroot : b.root.text.isEmpty = false)
    (h : b.perform (.createBucket location c) f = (.ok (), g)) : g.isDirectory b.root := by
  obtain ⟨text, -, hreach, hwalk, hstored⟩ := stored_of_perform_create h
  have hplace : b.place g = b.place f := place_eq_of_here hstored.here
  refine isDirectory_root_iff.2 ⟨?_, hwalk, ?_⟩
  · obtain ⟨s, hjoin, hs⟩ := Path.toList_join_of_head hroot isTrimmed_markerKey.head
    have hlead : b.root.text.toList <+: (b.root.join markerKey.text).text.toList := by
      rw [hjoin]
      rcases hs with hs | hs
      · exact ⟨'/' :: markerKey.text.toList, by rw [hs]⟩
      · exact ⟨markerKey.text.toList, by rw [hs, List.append_assoc, List.singleton_append]⟩
    exact Files.pathFault?_eq_none_iff.2 ⟨hroot, Files.noFault_of_prefix hreach.path hlead⟩
  · -- the marker stands in it
    have hmarker := hstored.file
    rw [← hplace, names_markerKey] at hmarker
    exact Files.Entry.look_of_append (by rw [hmarker]; simp)

/-! ### The marker -/

/-- What the bytes of a marker say. -/
def readMarker (b : DirectoryBucket) (bytes : ByteArray) : Except Error Marker :=
  (Files.textOf b.markerPath bytes).bind Marker.parse

/-- The marker is read if something has its name. -/
theorem run_marker (b : DirectoryBucket) (f : Files) :
    b.marker.run Files.perform f =
      (if f.holds b.markerPath then
        ((Files.failed b.markerPath (f.read b.markerPath)).bind b.readMarker).map some
      else .ok none, f) := by
  have hholds : (Plan.call (.holds b.markerPath) : FilePlan _).run Files.perform f =
      (.ok (f.holds b.markerPath), f) := Plan.run_call _ _ _
  refine (Plan.run_bind_ok hholds _).trans ?_
  cases hthere : f.holds b.markerPath with
  | false => rfl
  | true =>
    have hread : (Plan.call (.read b.markerPath) : FilePlan _).run Files.perform f =
        (Files.failed b.markerPath (f.read b.markerPath), f) := Plan.run_call _ _ _
    -- the bytes are read, then they are a text, and then the text is a marker
    cases hbytes : f.read b.markerPath with
    | error fault =>
      rw [hbytes] at hread
      exact Plan.run_bind_error (Plan.run_bind_error hread _) _
    | ok bytes =>
      rw [hbytes] at hread
      have htext : (Files.readText b.markerPath).run Files.perform f =
          (Files.textOf b.markerPath bytes, f) := Plan.run_bind_ok hread _
      simp only [if_true, Files.failed, Except.bind, readMarker]
      cases hvalid : Files.textOf b.markerPath bytes with
      | error e =>
        rw [hvalid] at htext
        exact Plan.run_bind_error htext _
      | ok text =>
        rw [hvalid] at htext
        refine (Plan.run_bind_ok htext _).trans ?_
        dsimp only
        cases Marker.parse text <;> rfl

theorem blob?_markerKey_eq_some_iff :
    b.blob? f markerKey = some bytes ↔ f.read b.markerPath = .ok bytes := by
  rw [blob?, isRelative_markerKey, ← markerPath_eq]
  cases f.read b.markerPath <;> simp [Except.toOption]

/-- Where there is a marker the bucket says what is in it. -/
theorem settings_of_blob? (h : b.blob? f markerKey = some bytes) :
    b.settings f = (b.readMarker bytes).map some := by
  have hread := blob?_markerKey_eq_some_iff.1 h
  have hholds : f.holds b.markerPath := by
    obtain ⟨target, hlocate, hlook⟩ := Files.read_eq_ok_iff.1 hread
    rw [Files.Entry.look, Option.map_eq_some_iff] at hlook
    obtain ⟨entry, hentry, -⟩ := hlook
    simp [Files.holds, Files.entry?, hlocate, hentry]
  rw [settings, run_marker, if_pos hholds, hread]
  rfl

/-- Where nothing has the name of the marker the bucket says nothing. -/
theorem settings_of_none (h : f.root.look (b.place f ++ markerKey.names) = none) :
    b.settings f = .ok none := by
  have hholds : ¬ f.holds b.markerPath := by
    intro hthere
    rw [Files.holds, Files.entry?] at hthere
    cases hlocate : f.locate b.markerPath with
    | error fault => simp [hlocate] at hthere
    | ok target =>
      have hwalk := (Files.walk_of_locate hlocate).2
      have htarget := Files.eq_resolve_of_walk hwalk
      rw [markerPath_eq, BlobKey.names_join isTrimmed_markerKey, start_join isTrimmed_markerKey,
        Files.resolve_append, Files.resolve_of_notMem (by decide)] at htarget
      change target = b.place f ++ markerKey.names at htarget
      rw [Files.Entry.look, Option.map_eq_none_iff, ← htarget] at h
      simp [hlocate, h] at hthere
  rw [settings, run_marker, if_neg hholds]

/-- What the bucket says is in its marker. -/
theorem exists_blob?_of_settings {m : Marker} (h : b.settings f = .ok (some m)) :
    ∃ bytes, b.blob? f markerKey = some bytes ∧ b.readMarker bytes = .ok m := by
  rw [settings, run_marker] at h
  dsimp only at h
  split_ifs at h with hholds
  · cases hread : f.read b.markerPath with
    | error fault =>
      rw [hread] at h
      cases h
    | ok bytes =>
      refine ⟨bytes, blob?_markerKey_eq_some_iff.2 hread, ?_⟩
      rw [hread] at h
      change (b.readMarker bytes).map some = _ at h
      cases hmarker : b.readMarker bytes with
      | error e =>
        rw [hmarker] at h
        cases h
      | ok m' =>
        rw [hmarker] at h
        rw [Option.some.inj (Except.ok.inj h)]
  · cases h

end DirectoryBucket

end DeploySync
