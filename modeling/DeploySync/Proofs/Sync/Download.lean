import DeploySync.Proofs.Sync.Export
import DeploySync.Proofs.Sync.RoundTrip
import Mathlib.Data.List.Forall2

/-!
# Downloads of documents that may be missing

A download brings documents into a directory one after the other, each of them only if it is there.
What becomes of a file depends on its own document alone: it holds all of the blob, or it stays as
it was. The same holds of the documents before the one at which a download fails.

## Main definitions

* `Sync.Copy`, `Sync.downloadEach` — a document with its file, and the plan that brings several
* `Sync.Went`, `Sync.Fails` — the calls for documents that went through, and for one that did not
* `Sync.Updated` — what became of the files
* `Sync.Downloading` — the courses that a download can take
* `Sync.BringsEach` — a download that brings each document on its own

## Main results

* `Sync.downloading_course` — there are no other courses
* `Sync.Brought.updated` — each file depends on its own document
* `Sync.downloads_independent` — both downloads of the library bring each document on its own,
  whatever the store answers
-/

namespace DeploySync

open Plan (done Answered)

namespace Sync

variable {σ α : Type}

/-- A document that is brought if it is there: its key, and the name of its file. -/
structure Copy where
  key : Except Error BlobKey
  file : String

/-- Brings one document into a directory, if it is there; tells whether it was. -/
def bring (dir : Path) (d : Copy) : Plan Bool :=
  (Plan.ofExcept d.key).bind fun k => downloadIfExists k (dir.join d.file)

/-- Brings documents into a directory, one after the other; tells of each whether it was there. -/
def downloadEach (dir : Path) : List Copy → Plan (List Bool)
  | [] => done (.ok [])
  | d :: rest =>
    (bring dir d).bind fun isThere =>
      (downloadEach dir rest).bind fun flags => done (.ok (isThere :: flags))

/-- The calls for a document that is not there, and for one that is, with its bytes. -/
def Copy.calls (dir : Path) (d : Copy) (k : BlobKey) :
    Option ByteArray → List (Answered Call Call.Answer)
  | none => [⟨.bucket (.blobExists k), .ok false⟩]
  | some bytes =>
    [⟨.bucket (.blobExists k), .ok true⟩, ⟨.bucket (.download k), .ok bytes⟩,
      ⟨.writeFile (dir.join d.file) bytes, .ok ()⟩]

/-- The calls for documents one after the other, of which each was there with its bytes or was
not. -/
inductive Went (dir : Path) :
    List Copy → List (Option ByteArray) → List (Answered Call Call.Answer) → Prop
  | nil : Went dir [] [] []
  | cons {d : Copy} {k : BlobKey} (content : Option ByteArray) {documents : List Copy}
      {contents : List (Option ByteArray)} {shown : List (Answered Call Call.Answer)}
      (hkey : d.key = .ok k) (hrest : Went dir documents contents shown) :
      Went dir (d :: documents) (content :: contents) (d.calls dir k content ++ shown)

/-- The calls for a document that could not be fetched: it has no key, or the store failed when it
was asked for the document or for its bytes. -/
inductive Fails (d : Copy) : List (Answered Call Call.Answer) → Error → Prop
  | keyless {e : Error} (hkey : d.key = .error e) : Fails d [] e
  | lookup {k : BlobKey} {e : Error} (hkey : d.key = .ok k) :
      Fails d [⟨.bucket (.blobExists k), .error e⟩] e
  | download {k : BlobKey} {e : Error} (hkey : d.key = .ok k) :
      Fails d [⟨.bucket (.blobExists k), .ok true⟩, ⟨.bucket (.download k), .error e⟩] e

/-- The file of a document in a directory holds all of what was brought, or it is what it was. -/
structure Copy.Holds (f g : Files) (dir : Path) (place : List String) (d : Copy)
    (content : Option ByteArray) : Prop where
  look : g.root.look (place ++ [d.file]) =
    content.elim (f.root.look (place ++ [d.file])) fun bytes => some (some bytes)
  read : g.read (dir.join d.file) = content.elim (f.read (dir.join d.file)) .ok

/-- What became of the files: each document's file holds what was brought, or it is what it was, and
everything else is what it was. -/
structure Updated (f g : Files) (dir : Path) (place : List String) (documents : List Copy)
    (contents : List (Option ByteArray)) : Prop where
  directory : g.StandsAt dir place
  files : List.Forall₂ (Copy.Holds f g dir place) documents contents
  elsewhere : ∀ names, (∀ d ∈ documents, names ≠ place ++ [d.file]) →
    g.root.look names = f.root.look names

/-! ### Courses -/

/-- The files of documents are written one after the other, each if its document was there. -/
inductive Brought (dir : Path) : Files → List Copy → List (Option ByteArray) →
    List (Answered Call Call.Answer) → Files → Prop
  | nil (f : Files) : Brought dir f [] [] [] f
  | cons {f f' g : Files} {d : Copy} {k : BlobKey} {content : Option ByteArray}
      {documents : List Copy} {contents : List (Option ByteArray)}
      {shown : List (Answered Call Call.Answer)} (hkey : d.key = .ok k)
      (hwrite : content.elim (.ok f) (f.write (dir.join d.file)) = .ok f')
      (hrest : Brought dir f' documents contents shown g) :
      Brought dir f (d :: documents) (content :: contents) (d.calls dir k content ++ shown) g

/-- The courses that a download can take: its calls, its result, and the files behind it. -/
inductive Downloading (dir : Path) (f : Files) (documents : List Copy) :
    List (Answered Call Call.Answer) → Except Error (List Bool) → Files → Prop
  | through {contents : List (Option ByteArray)} {shown : List (Answered Call Call.Answer)}
      {g : Files} (h : Brought dir f documents contents shown g) :
      Downloading dir f documents shown (.ok (contents.map Option.isSome)) g
  | failed (before : List Copy) {after : List Copy} {d : Copy}
      {contents : List (Option ByteArray)}
      {shown shown' : List (Answered Call Call.Answer)} {e : Error} {g : Files}
      (hdocuments : documents = before ++ d :: after) (h : Brought dir f before contents shown g)
      (hfails : Fails d shown' e) : Downloading dir f documents (shown ++ shown') (.error e) g
  | writeFailed {p : Path} {bytes : ByteArray} {shown : List (Answered Call Call.Answer)}
      {e : Error} {g : Files} (hmem : ⟨.writeFile p bytes, .error e⟩ ∈ shown) :
      Downloading dir f documents shown (.error e) g

section Courses

variable {dir : Path} {d : Copy} {k : BlobKey} {f f' g : Files} {content : Option ByteArray}
variable {documents : List Copy} {contents : List (Option ByteArray)}
variable {shown : List (Answered Call Call.Answer)} {result : Except Error (List Bool)}

theorem Brought.went (h : Brought dir f documents contents shown g) :
    Went dir documents contents shown := by
  induction h with
  | nil f => exact .nil
  | cons hkey hwrite hrest ih => exact .cons _ hkey ih

/-- The courses of one document: it goes through, or it fails before the files are touched, or its
file could not be written. -/
inductive Brings (dir : Path) (d : Copy) (f : Files) :
    List (Answered Call Call.Answer) → Except Error Bool → Files → Prop
  | through {k : BlobKey} (content : Option ByteArray) {g : Files} (hkey : d.key = .ok k)
      (hwrite : content.elim (.ok f) (f.write (dir.join d.file)) = .ok g) :
      Brings dir d f (d.calls dir k content) (.ok content.isSome) g
  | failed {shown : List (Answered Call Call.Answer)} {e : Error} (hfails : Fails d shown e) :
      Brings dir d f shown (.error e) f
  | writeFailed {p : Path} {bytes : ByteArray} {shown : List (Answered Call Call.Answer)}
      {e : Error} {g : Files} (hmem : ⟨.writeFile p bytes, .error e⟩ ∈ shown) :
      Brings dir d f shown (.error e) g

/-- A document that fails is the end of a course. -/
theorem Brings.downloading_of_error {e : Error} (h : Brings dir d f shown (.error e) g) :
    Downloading dir f (d :: documents) shown (.error e) g := by
  generalize hresult : (Except.error e : Except Error Bool) = result at h
  cases h with
  | through content hkey hwrite => cases hresult
  | failed hfails =>
    obtain rfl := Except.error.inj hresult
    exact .failed [] rfl (.nil _) hfails
  | writeFailed hmem =>
    obtain rfl := Except.error.inj hresult
    exact .writeFailed hmem

/-- A document that goes through is the first one of a course. -/
theorem Brings.downloading_of_ok {shown' : List (Answered Call Call.Answer)} {isThere : Bool}
    (h : Brings dir d f shown (.ok isThere) f')
    (hrest : Downloading dir f' documents shown' result g) :
    Downloading dir f (d :: documents) (shown ++ shown') (result.map (isThere :: ·)) g := by
  generalize hfirst : (Except.ok isThere : Except Error Bool) = first at h
  cases h with
  | failed hfails => cases hfirst
  | writeFailed hmem => cases hfirst
  | through content hkey hwrite =>
    obtain rfl := Except.ok.inj hfirst
    cases hrest with
    | through hrest => exact .through (.cons hkey hwrite hrest)
    | failed before hdocuments hrest hfails =>
      rw [← List.append_assoc]
      exact .failed (d :: before) (by rw [hdocuments]; rfl) (.cons hkey hwrite hrest) hfails
    | writeFailed hmem => exact .writeFailed (List.mem_append_right _ hmem)

/-- What follows the bytes of a document. -/
def keep (destination : Path) (k : BlobKey) : (Call.bucket (.download k)).Answer → Plan Bool :=
  fun bytes => .ask (.writeFile destination bytes) fun _ => done (.ok true)

/-- What follows the answer whether a document is there. -/
def bringIf (destination : Path) (k : BlobKey) :
    (Call.bucket (.blobExists k)).Answer → Plan Bool
  | true => .ask (.bucket (.download k)) (keep destination k)
  | false => done (.ok false)

theorem bring_eq (hkey : d.key = .ok k) :
    bring dir d = .ask (.bucket (.blobExists k)) (bringIf (dir.join d.file) k) := by
  rw [bring, hkey, Plan.ofExcept, Plan.bind_done_ok, downloadIfExists_eq]
  refine congrArg (Plan.ask _) (funext fun isThere : Bool => ?_)
  cases isThere <;> rfl

/-- One document takes one of these courses. -/
theorem bring_course (host : Host σ) (dir : Path) (d : Copy) (s : σ) :
    Brings dir d (host.files s) ((bring dir d).calls host.answer s)
      ((bring dir d).run host.answer s).1 (host.files ((bring dir d).run host.answer s).2) := by
  cases hkey : d.key with
  | error e =>
    rw [bring, hkey]
    exact .failed (.keyless hkey)
  | ok k =>
    rw [bring_eq hkey]
    -- asking the store leaves the files alone
    have hlooked := host.files_of_read (.blobExists k) s rfl
    rcases hexists : host.answer (.bucket (.blobExists k)) s with ⟨e | isThere, t⟩ <;>
      rw [hexists] at hlooked
    · rw [Plan.calls_ask_error hexists, Plan.run_ask_error hexists, ← hlooked]
      exact .failed (.lookup hkey)
    · rw [Plan.calls_ask_ok hexists, Plan.run_ask_ok hexists, ← hlooked]
      change Bool at isThere
      cases isThere with
      | false => exact .through none hkey rfl
      | true =>
        have hread := host.files_of_read (.download k) t rfl
        rcases hdownload : host.answer (.bucket (.download k)) t with ⟨e | bytes, u⟩ <;>
          rw [hdownload] at hread
        · rw [bringIf, Plan.calls_ask_error hdownload, Plan.run_ask_error hdownload, ← hread]
          exact .failed (.download hkey)
        · rw [bringIf, Plan.calls_ask_ok hdownload, Plan.run_ask_ok hdownload, ← hread, keep]
          -- the files are touched by the last call only
          rcases hwrite : host.answer (.writeFile (dir.join d.file) bytes) u with ⟨e | ⟨⟩, v⟩
          · rw [Plan.calls_ask_error hwrite, Plan.run_ask_error hwrite]
            exact .writeFailed (List.mem_cons_of_mem _ (List.mem_cons_of_mem _ List.mem_cons_self))
          · rw [Plan.calls_ask_ok hwrite, Plan.run_ask_ok hwrite]
            exact .through (some bytes) hkey (host.write_of_ok _ _ u v hwrite)

/-- A download takes one of these courses. -/
theorem downloading_course (host : Host σ) (dir : Path) (documents : List Copy) (s : σ) :
    Downloading dir (host.files s) documents ((downloadEach dir documents).calls host.answer s)
      ((downloadEach dir documents).run host.answer s).1
      (host.files ((downloadEach dir documents).run host.answer s).2) := by
  induction documents generalizing s with
  | nil => exact .through (.nil _)
  | cons d rest ih =>
    have hfirst := bring_course host dir d s
    rw [downloadEach]
    rcases hrun : (bring dir d).run host.answer s with ⟨e | isThere, t⟩ <;> rw [hrun] at hfirst
    · rw [Plan.calls_bind_error hrun, Plan.run_bind_error hrun]
      exact hfirst.downloading_of_error
    · rw [Plan.calls_bind_ok hrun, Plan.run_bind_ok hrun, Plan.calls_bind_done,
        Plan.run_bind_done]
      exact hfirst.downloading_of_ok (ih t)

end Courses

/-! ### Files -/

section Files

variable {dir : Path} {place : List String} {d : Copy} {f f' g : Files}
variable {content : Option ByteArray} {documents : List Copy}
variable {contents : List (Option ByteArray)} {shown : List (Answered Call Call.Answer)}

/-- What the write of one document does. -/
theorem updated_of_write (hdir : f.StandsAt dir place) (hfile : Files.IsFileName d.file)
    (hwrite : content.elim (.ok f) (f.write (dir.join d.file)) = .ok g) :
    Updated f g dir place [d] [content] := by
  cases content with
  | none =>
    obtain rfl := Except.ok.inj hwrite
    exact ⟨hdir, .cons ⟨rfl, rfl⟩ .nil, fun names _ => rfl⟩
  | some bytes =>
    obtain ⟨place', name, hlands, rfl⟩ := Files.write_eq_ok_iff.1 hwrite
    obtain ⟨rfl, rfl⟩ := hdir.landsAt hfile.toIsName hlands
    refine ⟨hlands.standsAt_withFile bytes hdir, .cons ⟨?_, hlands.read_withFile bytes⟩ .nil, ?_⟩
    · rw [hlands.look_withFile, if_pos rfl]
      rfl
    · intro names hnames
      rw [hlands.look_withFile, if_neg (hnames d List.mem_cons_self)]

/-- What a document's file holds depends only on what stands there before and behind. -/
theorem Copy.Holds.of_look {f₁ f₂ g₁ g₂ : Files} (h : d.Holds f₁ g₁ dir place content)
    (hfile : Files.IsFileName d.file) (hf₁ : f₁.StandsAt dir place) (hf₂ : f₂.StandsAt dir place)
    (hg₁ : g₁.StandsAt dir place) (hg₂ : g₂.StandsAt dir place)
    (hf : f₁.root.look (place ++ [d.file]) = f₂.root.look (place ++ [d.file]))
    (hg : g₁.root.look (place ++ [d.file]) = g₂.root.look (place ++ [d.file])) :
    d.Holds f₂ g₂ dir place content where
  look := by rw [← hf, ← hg, h.look]
  read := by
    rw [← hf₁.read_join_congr hf₂ hfile hf, ← hg₁.read_join_congr hg₂ hfile hg, h.read]

/-- One document, and then others with other files. -/
theorem Updated.cons (hdir : f.StandsAt dir place) (hfirst : Updated f f' dir place [d] [content])
    (hrest : Updated f' g dir place documents contents)
    (hfiles : ∀ d' ∈ d :: documents, Files.IsFileName d'.file)
    (hne : ∀ d' ∈ documents, d'.file ≠ d.file) :
    Updated f g dir place (d :: documents) (content :: contents) := by
  obtain ⟨hfile, hfiles⟩ := List.forall_mem_cons.1 hfiles
  -- the first file and the others stand under different names
  have hother {d' : Copy} (hd' : d' ∈ documents) : place ++ [d'.file] ≠ place ++ [d.file] := by
    intro h
    exact hne d' hd' (by simpa using h)
  refine ⟨hrest.directory, .cons ?_ ?_, ?_⟩
  · -- the others leave the first file alone
    have hlook := hrest.elsewhere (place ++ [d.file]) fun d' hd' => (hother hd').symm
    obtain ⟨hholds, -⟩ := List.forall₂_cons.1 hfirst.files
    exact hholds.of_look hfile hdir hdir hfirst.directory hrest.directory rfl hlook.symm
  · -- and the first one left theirs alone
    have hmem : ∀ d' ∈ documents, d' ∈ documents := fun d' hd' => hd'
    refine ((List.forall₂_and_left _ _).2 ⟨hmem, hrest.files⟩).imp fun d' content' hd' => ?_
    obtain ⟨hmem, hholds⟩ := hd'
    have hlook := hfirst.elsewhere (place ++ [d'.file]) (by simpa using hother hmem)
    exact hholds.of_look (hfiles d' hmem) hfirst.directory hdir hrest.directory hrest.directory
      hlook rfl
  · intro names hnames
    obtain ⟨hname, hnames⟩ := List.forall_mem_cons.1 hnames
    rw [hrest.elsewhere names hnames, hfirst.elsewhere names (by simpa using hname)]

/-- Documents with files of their own do not touch each other's files. -/
theorem Brought.updated (h : Brought dir f documents contents shown g)
    (hdir : f.StandsAt dir place) (hfiles : ∀ d ∈ documents, Files.IsFileName d.file)
    (hnodup : (documents.map Copy.file).Nodup) : Updated f g dir place documents contents := by
  induction h with
  | nil f => exact ⟨hdir, .nil, fun names _ => rfl⟩
  | @cons f f' g d k content documents contents shown hkey hwrite hrest ih =>
    rw [List.map_cons, List.nodup_cons] at hnodup
    -- the directory stays where it is, so that the rest is brought there, too
    have hfirst := updated_of_write hdir (hfiles d List.mem_cons_self) hwrite
    have hrest := ih hfirst.directory (fun d' hd' => hfiles d' (List.mem_cons_of_mem d hd'))
      hnodup.2
    refine hfirst.cons hdir hrest hfiles fun d' hd' heq => ?_
    exact hnodup.1 (heq ▸ List.mem_map_of_mem hd')

end Files

/-! ### Each document on its own -/

/-- The call asks the store for one of the documents, or writes its file. -/
def AsksAbout (dir : Path) (documents : List Copy) (q : Call) : Prop :=
  ∃ d ∈ documents, ∃ k, d.key = .ok k ∧
    (AsksFor k q ∨ ∃ bytes, q = .writeFile (dir.join d.file) bytes)

/-- A download that brings each document on its own. If it ends well, each flag is what the store
answered when it was asked for the document, and the file is that of the answer; if it fails
elsewhere than at a write, the documents before the one at which it failed went through, and nothing
else was changed. The store is only asked for the documents. -/
structure BringsEach (host : Host σ) (s : σ) (dir : Path) (place : List String)
    (documents : List Copy) (plan : Plan α) (flags : α → List Bool) : Prop where
  found : ∀ a, (plan.run host.answer s).1 = .ok a →
    ∃ contents, Went dir documents contents (plan.calls host.answer s) ∧
      flags a = contents.map Option.isSome ∧
      Updated (host.files s) (host.files (plan.run host.answer s).2) dir place documents contents
  failed : ∀ e, (plan.run host.answer s).1 = .error e →
    (∀ p bytes e', ⟨.writeFile p bytes, .error e'⟩ ∉ plan.calls host.answer s) →
    ∃ before d after contents shown shown', documents = before ++ d :: after ∧
      Went dir before contents shown ∧ Fails d shown' e ∧
      plan.calls host.answer s = shown ++ shown' ∧
      Updated (host.files s) (host.files (plan.run host.answer s).2) dir place before contents
  asked : ∀ x ∈ plan.calls host.answer s, AsksAbout dir documents x.1
  /-- Whatever of the store no reading changes, and no write of a file, is as it was. -/
  store : ∀ (ν : Type) (view : σ → ν),
    (∀ c t, c.isWrite = false → view (host.answer (.bucket c) t).2 = view t) →
    (∀ p bytes t, view (host.answer (.writeFile p bytes) t).2 = view t) →
    view (plan.run host.answer s).2 = view s

section BringsEach

variable {host : Host σ} {s : σ} {dir : Path} {place : List String} {documents : List Copy}

theorem asks_downloadEach (dir : Path) (documents : List Copy) :
    Plan.Asks (AsksAbout dir documents) (downloadEach dir documents) := by
  induction documents with
  | nil => exact Plan.asks_done _
  | cons d rest ih =>
    have hrest : Plan.Asks (AsksAbout dir (d :: rest)) (downloadEach dir rest) := by
      refine ih.mono fun q hq => ?_
      obtain ⟨d', hd', hasks⟩ := hq
      exact ⟨d', List.mem_cons_of_mem d hd', hasks⟩
    -- a document whose key is malformed asks for nothing, the others for their blob and their file
    have hfirst : Plan.Asks (AsksAbout dir (d :: rest)) (bring dir d) := by
      cases hkey : d.key with
      | error e =>
        rw [bring, hkey]
        exact Plan.asks_done _
      | ok k =>
        have hasks {q : Call} (hq : AsksFor k q ∨ ∃ bytes, q = .writeFile (dir.join d.file) bytes) :
            AsksAbout dir (d :: rest) q := ⟨d, List.mem_cons_self, k, hkey, hq⟩
        rw [bring_eq hkey]
        refine ⟨hasks (.inl (.inl rfl)), fun isThere => ?_⟩
        change Bool at isThere
        cases isThere with
        | false => exact Plan.asks_done _
        | true =>
          refine ⟨hasks (.inl (.inr rfl)), fun bytes => ?_⟩
          exact ⟨hasks (.inr ⟨bytes, rfl⟩), fun _ => Plan.asks_done _⟩
    exact hfirst.bind fun _ => hrest.bind fun _ => Plan.asks_done _

/-- A plan that brings documents with files of their own brings each of them on its own. -/
theorem bringsEach_of_eq {plan : Plan α} {flags : α → List Bool}
    (hplan : (plan.bind fun a => done (.ok (flags a))) = downloadEach dir documents)
    (hdir : (host.files s).StandsAt dir place)
    (hfiles : ∀ d ∈ documents, Files.IsFileName d.file)
    (hnodup : (documents.map Copy.file).Nodup) :
    BringsEach host s dir place documents plan flags := by
  have hcourse := downloading_course host dir documents s
  have hasks := Plan.forall_mem_calls (h := host.answer) (asks_downloadEach dir documents) s
  rw [← hplan, Plan.calls_bind_done, Plan.run_bind_done] at hcourse
  rw [← hplan, Plan.calls_bind_done] at hasks
  -- a result that is good or an error excludes all courses but one, or a failed write
  refine ⟨?_, ?_, hasks, ?_⟩
  · intro a ha
    rw [ha] at hcourse
    generalize hresult : Except.map flags (.ok a : Except Error α) = result at hcourse
    generalize plan.calls host.answer s = shown at hcourse ⊢
    cases hcourse with
    | through h =>
      exact ⟨_, h.went, Except.ok.inj hresult, h.updated hdir hfiles hnodup⟩
    | failed before hdocuments h hfails => cases hresult
    | writeFailed hmem => cases hresult
  · intro e he hwrite
    rw [he] at hcourse
    generalize hresult : Except.map flags (.error e : Except Error α) = result at hcourse
    generalize plan.calls host.answer s = shown at hcourse hwrite ⊢
    cases hcourse with
    | through h => cases hresult
    | failed before hdocuments h hfails =>
      obtain rfl := Except.error.inj hresult
      rw [hdocuments, List.forall_mem_append] at hfiles
      rw [hdocuments, List.map_append] at hnodup
      exact ⟨_, _, _, _, _, _, hdocuments, h.went, hfails, rfl,
        h.updated hdir hfiles.1 (List.nodup_append.1 hnodup).1⟩
    | writeFailed hmem => exact absurd hmem (hwrite _ _ _)
  · intro ν view hread hfile
    refine Plan.run_invariant (I := fun t => view t = view s)
      (fun x => AsksAbout dir documents x.1) ?_ plan rfl hasks
    rintro q t ht ⟨d, -, k, -, (rfl | rfl) | ⟨bytes, rfl⟩⟩
    · exact (hread (.blobExists k) t rfl).trans ht
    · exact (hread (.download k) t rfl).trans ht
    · exact (hfile _ bytes t).trans ht

end BringsEach

theorem isFileName_metadataFile : Files.IsFileName Metadata.fileName where
  slash := by decide
  notTrivial := by decide
  zero := by decide
  notUp := by decide
  fits := by decide

/-- The common settings of a workspace, and their file. -/
def commonVarsCopy (workspace : String) : Copy :=
  ⟨BlobKey.workspaceFile workspace Document.commonVarsFile, Document.commonVarsFile⟩

/-- The metadata of a workspace, and their file. -/
def metadataCopy (workspace : String) : Copy :=
  ⟨BlobKey.workspaceFile workspace Metadata.fileName, Metadata.fileName⟩

/-- The flags of both documents. -/
def foundFlags (found : MetadataSync.Found) : List Bool := [found.commonVars, found.metadata]

theorem download_metadata_eq (sync : MetadataSync) (workspace : String) :
    ((sync.download workspace).bind fun found => done (.ok (foundFlags found))) =
      downloadEach sync.dir [commonVarsCopy workspace, metadataCopy workspace] := by
  simp only [MetadataSync.download, downloadEach, bring, Plan.bind_eq, Plan.pure_eq,
    Plan.bind_assoc, Plan.bind_done_ok]
  rfl

/-- Both downloads of the library bring each document on its own, for every workspace, whatever the
store answers and whatever the files were before: that of the common settings and the metadata of a
workspace, and that of the common settings of an environment. -/
theorem downloads_independent (host : Host σ) (s : σ) (dir : Path)
    (hdir : (host.files s).isDirectory dir) :
    ∃ place, (host.files s).StandsAt dir place ∧
      (∀ (sync : MetadataSync) (workspace : String), sync.dir = dir →
        BringsEach host s dir place [commonVarsCopy workspace, metadataCopy workspace]
          (sync.download workspace) foundFlags) ∧
      ∀ sync : CommonVarsSync, sync.destination = dir.join Document.commonVarsFile →
        BringsEach host s dir place [⟨.ok sync.key, Document.commonVarsFile⟩] sync.download
          fun isThere => [isThere] := by
  obtain ⟨place, hlocate, hlook⟩ := Files.isDirectory_iff.1 hdir
  refine ⟨place, ⟨hlocate, hlook⟩, ?_, ?_⟩
  · rintro sync workspace rfl
    apply bringsEach_of_eq (download_metadata_eq sync workspace) ⟨hlocate, hlook⟩
    · simp [commonVarsCopy, metadataCopy, isFileName_commonVarsFile, isFileName_metadataFile]
    · simp [commonVarsCopy, metadataCopy, Document.commonVarsFile, Metadata.fileName]
  · intro sync hdestination
    have hplan : (sync.download.bind fun isThere => done (.ok [isThere])) =
        downloadEach dir [⟨.ok sync.key, Document.commonVarsFile⟩] := by
      rw [CommonVarsSync.download, hdestination]
      rfl
    apply bringsEach_of_eq hplan ⟨hlocate, hlook⟩
    · simp [isFileName_commonVarsFile]
    · simp

/-- Of a workspace without metadata, the common settings are downloaded; there is no file of
metadata then, and the properties are what they were. -/
theorem downloads_independent_sample :
    let run := (sampleMetadata.download "dev").run sampleHost.answer (exportState none)
    let files := sampleHost.files run.2
    run.1 = .ok ⟨true, false⟩ ∧
      files.read ⟨"/stage/common_vars.yaml"⟩ = .ok (Bytes.ofText World.sampleText) ∧
      files.root.look ["stage", "metadata.yaml"] = none ∧
      files.root.look ["stage", "env.properties"] = some (some (Bytes.ofText "OLD=1\n")) := by
  intro run files
  have hfound : run.1 = .ok ⟨true, false⟩ := by decide +kernel
  have hdir : (sampleHost.files (exportState none)).isDirectory ⟨"/stage"⟩ := by decide +kernel
  have hlocate : (sampleHost.files (exportState none)).locate ⟨"/stage"⟩ = .ok ["stage"] := by
    decide +kernel
  obtain ⟨place, hplace, hdownloads, -⟩ :=
    downloads_independent sampleHost (exportState none) ⟨"/stage"⟩ hdir
  obtain rfl : place = ["stage"] := Except.ok.inj (hplace.locate.symm.trans hlocate)
  obtain ⟨contents, -, hflags, hupdated⟩ :=
    (hdownloads sampleMetadata "dev" rfl).found ⟨true, false⟩ hfound
  refine ⟨hfound, by decide +kernel, ?_, ?_⟩
  · obtain ⟨content, contents, -, hrest, rfl⟩ := List.forall₂_cons_left_iff.1 hupdated.files
    obtain ⟨content', contents, hholds, -, rfl⟩ := List.forall₂_cons_left_iff.1 hrest
    -- the flag of the metadata says that there are none
    obtain rfl : content' = none := by
      cases content' with
      | none => rfl
      | some bytes => simp [foundFlags] at hflags
    exact hholds.look
  · exact hupdated.elsewhere ["stage", "env.properties"]
      (by simp [commonVarsCopy, metadataCopy, Document.commonVarsFile, Metadata.fileName])

end Sync

end DeploySync
