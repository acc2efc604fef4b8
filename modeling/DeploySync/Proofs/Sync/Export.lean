import DeploySync.Proofs.BlobKey
import DeploySync.Proofs.Document
import DeploySync.Proofs.Files.Writing
import DeploySync.Proofs.Sync.Fetch
import DeploySync.Proofs.Sync.Upload
import DeploySync.Sync.Export
import DeploySync.Sync.Metadata

/-!
# Exports

Both exports of the library fetch two documents, compute properties from them, and write these to a
file. The bucket is only read, one document after the other, and the write comes last, so that an
export that fails before it changes no file.

## Main definitions

* `Sync.Host` — a store of any behaviour beside files that only a write changes
* `Sync.exporting` — the plan that both exports are
* `Sync.Exporting` — the courses that an export can take
* `Sync.Computes` — properties that are assignments, or the first error among these
* `Sync.AllOrNothing` — an export that reads two documents and then writes one file, or nothing

## Main results

* `Sync.exporting_course` — there are no other courses
* `Sync.exporting_allOrNothing` — a plan of this form is all or nothing
* `Sync.exports_allOrNothing` — both exports are, whatever the store answers
-/

namespace DeploySync

open Plan (done Handler Answered Follows)

namespace Sync

variable {σ τ α β : Type}

/-- What answers the calls of an export: a store of any behaviour, which may fail at any call,
beside files that only a write changes. A write that succeeds has written; one that fails may leave
anything behind. -/
structure Host (σ : Type) where
  answer : Handler Call Call.Answer σ
  files : σ → Files
  files_of_read : ∀ c s, c.isWrite = false → files (answer (.bucket c) s).2 = files s
  write_of_ok : ∀ p bytes s t, answer (.writeFile p bytes) s = (.ok (), t) →
    (files s).write p bytes = .ok (files t)

/-- Any store at all beside files in memory. -/
def Host.beside (store : Handler Bucket.Call Bucket.Call.Answer τ) : Host (Files × τ) where
  answer
    | .bucket c, (f, s) => ((store c s).1, (f, (store c s).2))
    | .output _ name, s => (.error (.process (.other name)), s)
    | .readFile p, (f, s) => (Files.failed p (f.read p), (f, s))
    | .writeFile p bytes, (f, s) =>
      ((Files.perform (.write p bytes) f).1, ((Files.perform (.write p bytes) f).2, s))
  files s := s.1
  files_of_read c s hread := rfl
  write_of_ok p bytes s t h := by
    obtain ⟨hanswer, rfl⟩ := Prod.mk.inj h
    cases hwrite : s.1.write p bytes with
    | error fault =>
      rw [Files.perform, hwrite] at hanswer
      cases hanswer
    | ok g =>
      dsimp only
      rw [Files.perform, hwrite]
      rfl

/-- Fetches two documents, and writes the properties that are computed from them. -/
def exporting (bucket : String) (first : Source α) (second : Source β)
    (properties : α → β → Except Error Properties) (destination : Path) : Plan Properties :=
  (fetch bucket first).bind fun a => (fetch bucket second).bind fun b =>
    (Plan.ofExcept (properties a b)).bind fun p =>
      (writeFile destination (Bytes.ofText p.render)).bind fun _ => done (.ok p)

/-! ### Courses -/

/-- The courses that an export can take. -/
inductive Exporting (bucket : String) (first : Source α) (second : Source β)
    (properties : α → β → Except Error Properties) (destination : Path) :
    List (Answered Call Call.Answer) → Except Error Properties → Prop
  | firstFailed {shown : List (Answered Call Call.Answer)} {e : Error}
      (hfirst : Fetches bucket first shown (.error e)) :
      Exporting bucket first second properties destination shown (.error e)
  | secondFailed {shown shown' : List (Answered Call Call.Answer)} {a : α} {e : Error}
      (hfirst : Fetches bucket first shown (.ok a))
      (hsecond : Fetches bucket second shown' (.error e)) :
      Exporting bucket first second properties destination (shown ++ shown') (.error e)
  | refused {shown shown' : List (Answered Call Call.Answer)} {a : α} {b : β} {e : Error}
      (hfirst : Fetches bucket first shown (.ok a)) (hsecond : Fetches bucket second shown' (.ok b))
      (hproperties : properties a b = .error e) :
      Exporting bucket first second properties destination (shown ++ shown') (.error e)
  | writeFailed {shown shown' : List (Answered Call Call.Answer)} {a : α} {b : β} {p : Properties}
      {e : Error} (hfirst : Fetches bucket first shown (.ok a))
      (hsecond : Fetches bucket second shown' (.ok b)) (hproperties : properties a b = .ok p) :
      Exporting bucket first second properties destination
        (shown ++ (shown' ++ [⟨.writeFile destination (Bytes.ofText p.render), .error e⟩]))
        (.error e)
  | written {shown shown' : List (Answered Call Call.Answer)} {a : α} {b : β} {p : Properties}
      (hfirst : Fetches bucket first shown (.ok a)) (hsecond : Fetches bucket second shown' (.ok b))
      (hproperties : properties a b = .ok p) :
      Exporting bucket first second properties destination
        (shown ++ (shown' ++ [⟨.writeFile destination (Bytes.ofText p.render), .ok ()⟩])) (.ok p)

section Courses

theorem write_eq (p : Path) (bytes : ByteArray) (next : Plan α) :
    ((writeFile p bytes).bind fun _ => next) = .ask (.writeFile p bytes) fun _ => next := rfl

/-- An export takes one of these courses. -/
theorem exporting_course (h : Handler Call Call.Answer σ) (bucket : String) (first : Source α)
    (second : Source β) (properties : α → β → Except Error Properties) (destination : Path)
    (s : σ) :
    Exporting bucket first second properties destination
      ((exporting bucket first second properties destination).calls h s)
      ((exporting bucket first second properties destination).run h s).1 := by
  -- each part is run in the state that the one before has left
  have hfirst := fetch_course h bucket first s
  rw [exporting]
  rcases hrun : (fetch bucket first).run h s with ⟨e | a, t⟩ <;> rw [hrun] at hfirst
  · rw [Plan.calls_bind_error hrun, Plan.run_bind_error hrun]
    exact .firstFailed hfirst
  · rw [Plan.calls_bind_ok hrun, Plan.run_bind_ok hrun]
    have hsecond := fetch_course h bucket second t
    rcases hrun' : (fetch bucket second).run h t with ⟨e | b, u⟩ <;> rw [hrun'] at hsecond
    · rw [Plan.calls_bind_error hrun', Plan.run_bind_error hrun']
      exact .secondFailed hfirst hsecond
    · rw [Plan.calls_bind_ok hrun', Plan.run_bind_ok hrun']
      cases hproperties : properties a b with
      | error e =>
        rw [Plan.ofExcept, Plan.bind_done_error, Plan.calls_done, List.append_nil]
        exact .refused hfirst hsecond hproperties
      | ok p =>
        rw [Plan.ofExcept, Plan.bind_done_ok, write_eq]
        rcases hwrite : h (.writeFile destination (Bytes.ofText p.render)) u with ⟨e | ⟨⟩, v⟩
        · rw [Plan.calls_ask_error hwrite, Plan.run_ask_error hwrite]
          exact .writeFailed hfirst hsecond hproperties
        · rw [Plan.calls_ask_ok hwrite, Plan.run_ask_ok hwrite]
          exact .written hfirst hsecond hproperties

end Courses

/-! ### All or nothing -/

/-- The properties are the assignments, in order, or the error is the first one among these. -/
def Computes (assignments : List (String × Except Error String)) :
    Except Error Properties → Prop
  | .ok p => p.entries.map (fun entry => (entry.1, .ok entry.2)) = assignments
  | .error e => ∃ before key after, assignments = before ++ (key, .error e) :: after ∧
      ∀ entry ∈ before, entry.2.isOk

/-- An export is all or nothing. Whatever is answered, it asks for one document after the other and
then writes one file; if it fails before, no file is changed, and if it succeeds, the file holds the
assignments that the two documents amount to. -/
structure AllOrNothing (host : Host σ) (bucket : String) (first : Source α) (second : Source β)
    (assignments : α → β → List (String × Except Error String)) (destination : Path)
    (plan : Plan Properties) (s : σ) : Prop where
  /-- An error other than that of the write leaves all files as they are. -/
  unchanged : ∀ e, (plan.run host.answer s).1 = .error e →
    (∀ bytes e', ⟨.writeFile destination bytes, .error e'⟩ ∉ plan.calls host.answer s) →
      host.files (plan.run host.answer s).2 = host.files s
  /-- On success the file is that of the assignments, whatever it was before. -/
  written : ∀ p, (plan.run host.answer s).1 = .ok p →
    (host.files (plan.run host.answer s).2).read destination = .ok (Bytes.ofText p.render) ∧
      ∃ a b, first.Downloaded (plan.calls host.answer s) a ∧
        second.Downloaded (plan.calls host.answer s) b ∧
        p.entries.map (fun entry => (entry.1, .ok entry.2)) = assignments a b
  /-- The first call is the lookup of the first document. -/
  starts : ∀ k, first.key = .ok k →
    ∃ answer rest, plan.calls host.answer s = ⟨.bucket (.blobExists k), answer⟩ :: rest
  /-- The calls come in one order, and none follows one that failed. -/
  follows : ∃ existed bytes existed' bytes' p,
    Told first (plan.calls host.answer s) existed bytes ∧
    Told second (plan.calls host.answer s) existed' bytes' ∧
    (∀ a b, first.decode bytes = .ok a → second.decode bytes' = .ok b →
      Computes (assignments a b) p) ∧
    Follows
      (fetching bucket first existed bytes ++ (fetching bucket second existed' bytes' ++
        [p.map fun p => .writeFile destination (Bytes.ofText p.render)]))
      (plan.calls host.answer s) (plan.run host.answer s).1
  /-- The second key is asked for only once the first document was read. -/
  inOrder : ∀ k' before x after, second.key = .ok k' →
    plan.calls host.answer s = before ++ x :: after → AsksFor k' x.1 →
      ∃ a, first.Downloaded before a
  /-- A document that is not there is named in the error. -/
  notFound : ∀ k, ⟨.bucket (.blobExists k), .ok false⟩ ∈ plan.calls host.answer s →
    (first.key = .ok k ∧
      (plan.run host.answer s).1 = .error (.notFound (.document first.label bucket k.text))) ∨
    (second.key = .ok k ∧
      (plan.run host.answer s).1 = .error (.notFound (.document second.label bucket k.text)))

namespace Exporting

variable {bucket : String} {first : Source α} {second : Source β}
variable {properties : α → β → Except Error Properties} {destination : Path}
variable {shown : List (Answered Call Call.Answer)} {result : Except Error Properties}

/-- Every course with a first key begins with its lookup. -/
theorem starts (h : Exporting bucket first second properties destination shown result) {k : BlobKey}
    (hkey : first.key = .ok k) :
    ∃ answer rest, shown = ⟨.bucket (.blobExists k), answer⟩ :: rest := by
  have hbehind {fetched rest : List (Answered Call Call.Answer)} {fetched? : Except Error α}
      (hfetch : Fetches bucket first fetched fetched?) :
      ∃ answer more, fetched ++ rest = ⟨.bucket (.blobExists k), answer⟩ :: more := by
    obtain ⟨answer, more, rfl⟩ := hfetch.starts hkey
    exact ⟨answer, more ++ rest, rfl⟩
  cases h with
  | firstFailed hfirst => exact hfirst.starts hkey
  | secondFailed hfirst hsecond => exact hbehind hfirst
  | refused hfirst hsecond hproperties => exact hbehind hfirst
  | writeFailed hfirst hsecond hproperties => exact hbehind hfirst
  | written hfirst hsecond hproperties => exact hbehind hfirst

/-- What is told of two documents under different keys is told in the whole run. -/
theorem told (hne : ∀ k, first.key = .ok k → second.key ≠ .ok k)
    {shown shown' rest : List (Answered Call Call.Answer)} {a? : Except Error α}
    {b? : Except Error β} {existed existed' : Bool} {bytes bytes' : ByteArray}
    (hfirst : Fetches bucket first shown a?) (hsecond : Fetches bucket second shown' b?)
    (hrest : ∀ x ∈ rest, ¬ IsFetching x.1) (h : Told first shown existed bytes)
    (h' : Told second shown' existed' bytes') :
    Told first (shown ++ (shown' ++ rest)) existed bytes ∧
      Told second (shown ++ (shown' ++ rest)) existed' bytes' := by
  refine ⟨h.mono fun k hk x hx hasks => ?_, h'.mono fun k hk x hx hasks => ?_⟩ <;>
    rcases List.mem_append.1 hx with hx | hx
  · exact hx
  · rcases List.mem_append.1 hx with hx | hx
    · obtain ⟨k', hk', hasks'⟩ := hsecond.asksFor x hx
      obtain rfl := hasks.eq hasks'
      exact absurd hk' (hne k hk)
    · exact absurd ⟨k, hasks⟩ (hrest x hx)
  · obtain ⟨k', hk', hasks'⟩ := hfirst.asksFor x hx
    obtain rfl := hasks.eq hasks'
    exact absurd hk (hne k hk')
  · exact (List.mem_append.1 hx).resolve_right fun hx => hrest x hx ⟨k, hasks⟩

/-- Behind a fetch that succeeds a course goes through the places of the second fetch, and behind
that through that of the write. -/
theorem follows_behind (hne : ∀ k, first.key = .ok k → second.key ≠ .ok k)
    {shown shown' rest : List (Answered Call Call.Answer)} {a : α} {b? : Except Error β}
    (hfirst : Fetches bucket first shown (.ok a)) (hsecond : Fetches bucket second shown' b?)
    (hrest : ∀ x ∈ rest, ¬ IsFetching x.1)
    (hstop : ∀ e, b? = .error e → rest = [] ∧ result = .error e)
    (hlast : ∀ b, b? = .ok b → Follows
      [(properties a b).map fun p => .writeFile destination (Bytes.ofText p.render)] rest result) :
    ∃ existed bytes existed' bytes' p,
      Told first (shown ++ (shown' ++ rest)) existed bytes ∧
      Told second (shown ++ (shown' ++ rest)) existed' bytes' ∧
      (∀ a b, first.decode bytes = .ok a → second.decode bytes' = .ok b → p = properties a b) ∧
      Follows
        (fetching bucket first existed bytes ++ (fetching bucket second existed' bytes' ++
          [p.map fun p => .writeFile destination (Bytes.ofText p.render)]))
        (shown ++ (shown' ++ rest)) result := by
  obtain ⟨existed, bytes, htold, hfollows, hdecode⟩ := hfirst.follows
  obtain ⟨existed', bytes', htold', hfollows', hdecode'⟩ := hsecond.follows
  obtain ⟨hall, hall'⟩ := told hne hfirst hsecond hrest htold htold'
  refine ⟨existed, bytes, existed', bytes', (second.decode bytes').bind (properties a), hall, hall',
    fun a' b ha hb => ?_, hfollows.append ?_⟩
  · rw [hb, ← Except.ok.inj ((hdecode a rfl).symm.trans ha)]
    rfl
  · cases b? with
    | error e =>
      obtain ⟨rfl, rfl⟩ := hstop e rfl
      rw [List.append_nil]
      exact hfollows'.longer _
    | ok b =>
      rw [hdecode' b rfl]
      exact hfollows'.append (hlast b rfl)

/-- Every course goes through the places of the two fetches, and then through that of the write. -/
theorem follows (h : Exporting bucket first second properties destination shown result)
    (hne : ∀ k, first.key = .ok k → second.key ≠ .ok k) :
    ∃ existed bytes existed' bytes' p,
      Told first shown existed bytes ∧ Told second shown existed' bytes' ∧
      (∀ a b, first.decode bytes = .ok a → second.decode bytes' = .ok b → p = properties a b) ∧
      Follows
        (fetching bucket first existed bytes ++ (fetching bucket second existed' bytes' ++
          [p.map fun p => .writeFile destination (Bytes.ofText p.render)]))
        shown result := by
  -- a write fetches nothing
  have hwrite {bytes : ByteArray} {answer : Except Error Unit} :
      ∀ x ∈ [(⟨.writeFile destination bytes, answer⟩ : Answered Call Call.Answer)],
        ¬ IsFetching x.1 := by
    rintro x hx ⟨k, hk | hk⟩ <;> rw [List.mem_singleton.1 hx] at hk <;> cases hk
  cases h with
  | firstFailed hfirst =>
    obtain ⟨existed, bytes, htold, hfollows, -⟩ := hfirst.follows
    refine ⟨existed, bytes, false, ByteArray.empty, (first.decode bytes).bind fun a =>
      (second.decode ByteArray.empty).bind (properties a), htold, ?_,
      fun a b ha hb => by rw [ha, hb]; rfl, hfollows.longer _⟩
    -- the second document was not asked for
    refine (told_nil second _ _).mono fun k hk x hx hasks => ?_
    obtain ⟨k', hk', hasks'⟩ := hfirst.asksFor x hx
    obtain rfl := hasks.eq hasks'
    exact absurd hk (hne k hk')
  | @secondFailed fetched fetched' a e hfirst hsecond =>
    rw [← List.append_nil fetched']
    exact follows_behind hne hfirst hsecond (List.forall_mem_nil _)
      (fun e he => ⟨rfl, congrArg _ (Except.error.inj he)⟩) fun b hb => by cases hb
  | @refused fetched fetched' a b e hfirst hsecond hproperties =>
    rw [← List.append_nil fetched']
    refine follows_behind hne hfirst hsecond (List.forall_mem_nil _) (fun e he => by cases he)
      fun b hb => ?_
    rw [← Except.ok.inj hb, hproperties]
    exact .stopped e
  | writeFailed hfirst hsecond hproperties =>
    refine follows_behind hne hfirst hsecond hwrite (fun e he => by cases he) fun b hb => ?_
    rw [← Except.ok.inj hb, hproperties]
    exact .failed _ _
  | written hfirst hsecond hproperties =>
    refine follows_behind hne hfirst hsecond hwrite (fun e he => by cases he) fun b hb => ?_
    rw [← Except.ok.inj hb, hproperties]
    exact .asked (.done _)

/-- A course that fails reads only, or its write has failed. -/
theorem isFetching_of_error {e : Error}
    (h : Exporting bucket first second properties destination shown (.error e))
    (hwrite : ∀ bytes e', ⟨.writeFile destination bytes, .error e'⟩ ∉ shown) :
    ∀ x ∈ shown, IsFetching x.1 := by
  generalize hresult : (Except.error e : Except Error Properties) = result at h
  cases h with
  | firstFailed hfirst => exact hfirst.isFetching
  | secondFailed hfirst hsecond =>
    exact fun x hx => (List.mem_append.1 hx).elim (hfirst.isFetching x) (hsecond.isFetching x)
  | refused hfirst hsecond hproperties =>
    exact fun x hx => (List.mem_append.1 hx).elim (hfirst.isFetching x) (hsecond.isFetching x)
  | writeFailed hfirst hsecond hproperties =>
    exact absurd (List.mem_append_right _ (List.mem_append_right _ List.mem_cons_self)) (hwrite _ _)
  | written hfirst hsecond hproperties => cases hresult

/-- The calls for the second key come behind those of the first fetch. -/
theorem inOrder (h : Exporting bucket first second properties destination shown result)
    (hne : ∀ k, first.key = .ok k → second.key ≠ .ok k) {k' : BlobKey}
    {before after : List (Answered Call Call.Answer)} {x : Answered Call Call.Answer}
    (hkey : second.key = .ok k') (hshown : shown = before ++ x :: after)
    (hx : AsksFor k' x.1) : ∃ a, first.Downloaded before a := by
  -- a call of the first fetch asks for the other key
  have hfirstKey {fetched : List (Answered Call Call.Answer)} {result : Except Error α}
      (hfetch : Fetches bucket first fetched result) : x ∉ fetched := by
    intro hmem
    obtain ⟨k, hk, hasks⟩ := hfetch.asksFor x hmem
    exact hne k hk (hasks.eq hx ▸ hkey)
  -- so that both calls of the first fetch come before it
  have hbehind {fetched rest : List (Answered Call Call.Answer)} {a : α}
      (hfetch : Fetches bucket first fetched (.ok a)) (hrest : fetched ++ rest = shown) :
      ∃ a, first.Downloaded before a := by
    obtain ⟨k, bytes, hk, hdecode, heq⟩ := hfetch.eq_of_ok
    refine ⟨a, k, bytes, hk, ?_, hdecode⟩
    rcases List.append_eq_append_iff.1 (hrest.trans hshown) with
      ⟨more, hbefore, -⟩ | ⟨more, hfetched, hmore⟩
    · rw [hbefore, heq]
      simp
    · cases more with
      | nil =>
        rw [List.append_nil] at hfetched
        rw [← hfetched, heq]
        simp
      | cons y more =>
        obtain rfl := (List.cons.inj hmore).1
        exact absurd (by rw [hfetched]; simp) (hfirstKey hfetch)
  cases h with
  | firstFailed hfirst => exact absurd (by rw [hshown]; simp) (hfirstKey hfirst)
  | secondFailed hfirst hsecond => exact hbehind hfirst rfl
  | refused hfirst hsecond hproperties => exact hbehind hfirst rfl
  | writeFailed hfirst hsecond hproperties => exact hbehind hfirst rfl
  | written hfirst hsecond hproperties => exact hbehind hfirst rfl

/-- A course that succeeds has read both documents. -/
theorem documents {p : Properties}
    (h : Exporting bucket first second properties destination shown (.ok p)) :
    ∃ a b, first.Downloaded shown a ∧ second.Downloaded shown b ∧ properties a b = .ok p := by
  cases h with
  | written hfirst hsecond hproperties =>
    obtain ⟨k, bytes, hk, hdecode, rfl⟩ := hfirst.eq_of_ok
    obtain ⟨k', bytes', hk', hdecode', rfl⟩ := hsecond.eq_of_ok
    exact ⟨_, _, ⟨k, bytes, hk, by simp, hdecode⟩, ⟨k', bytes', hk', by simp, hdecode'⟩,
      hproperties⟩

/-- A document that is not there is named in the error. -/
theorem notFound (h : Exporting bucket first second properties destination shown result)
    {k : BlobKey} (hmem : ⟨.bucket (.blobExists k), .ok false⟩ ∈ shown) :
    (first.key = .ok k ∧ result = .error (.notFound (.document first.label bucket k.text))) ∨
    (second.key = .ok k ∧ result = .error (.notFound (.document second.label bucket k.text))) := by
  -- a fetch that succeeded was told that the document is there
  have hfound {α : Type} {d : Source α} {fetched : List (Answered Call Call.Answer)} {a : α}
      (hfetch : Fetches bucket d fetched (.ok a)) :
      ⟨.bucket (.blobExists k), .ok false⟩ ∉ fetched := by
    intro hmem
    cases (hfetch.notFound hmem).2
  have hfailed {α : Type} {d : Source α} {fetched : List (Answered Call Call.Answer)} {e : Error}
      (hfetch : Fetches bucket d fetched (.error e))
      (hmem : ⟨.bucket (.blobExists k), .ok false⟩ ∈ fetched) :
      d.key = .ok k ∧ (.error e : Except Error Properties) =
        .error (.notFound (.document d.label bucket k.text)) := by
    obtain ⟨hkey, he⟩ := hfetch.notFound hmem
    exact ⟨hkey, congrArg Except.error (Except.error.inj he)⟩
  cases h with
  | firstFailed hfirst => exact .inl (hfailed hfirst hmem)
  | secondFailed hfirst hsecond =>
    exact .inr (hfailed hsecond ((List.mem_append.1 hmem).resolve_left (hfound hfirst)))
  | refused hfirst hsecond hproperties =>
    exact absurd hmem (by simp [hfound hfirst, hfound hsecond])
  | writeFailed hfirst hsecond hproperties =>
    exact absurd hmem (by simp [hfound hfirst, hfound hsecond])
  | written hfirst hsecond hproperties =>
    exact absurd hmem (by simp [hfound hfirst, hfound hsecond])

end Exporting

section Runs

variable {bucket : String} {first : Source α} {second : Source β}
variable {properties : α → β → Except Error Properties} {destination : Path}

namespace Host

/-- A run that only fetches changes no file. -/
theorem files_run (host : Host σ) (plan : Plan α) (s : σ)
    (hfetching : ∀ x ∈ plan.calls host.answer s, IsFetching x.1) :
    host.files (plan.run host.answer s).2 = host.files s := by
  refine Plan.run_invariant (I := fun t => host.files t = host.files s)
    (fun x => IsFetching x.1) ?_ plan rfl hfetching
  rintro q t ht ⟨k, rfl | rfl⟩
  · exact (host.files_of_read (.blobExists k) t rfl).trans ht
  · exact (host.files_of_read (.download k) t rfl).trans ht

/-- An export that succeeds has written its properties. -/
theorem read_exporting (host : Host σ) {s t : σ} {p : Properties}
    (hrun : (exporting bucket first second properties destination).run host.answer s =
      (.ok p, t)) :
    (host.files t).read destination = .ok (Bytes.ofText p.render) := by
  obtain ⟨a, s₁, hfirst, hrun⟩ := Plan.run_bind_eq_ok_iff.1 hrun
  obtain ⟨b, s₂, hsecond, hrun⟩ := Plan.run_bind_eq_ok_iff.1 hrun
  obtain ⟨p', s₃, hproperties, hrun⟩ := Plan.run_bind_eq_ok_iff.1 hrun
  obtain ⟨⟨⟩, s₄, hwrite, hrun⟩ := Plan.run_bind_eq_ok_iff.1 hrun
  obtain ⟨hp, rfl⟩ := Prod.mk.inj hrun
  obtain rfl := Except.ok.inj hp
  obtain ⟨-, rfl⟩ := Prod.mk.inj hproperties
  have hfiles := host.write_of_ok destination (Bytes.ofText p'.render) s₂ s₄
    ((Plan.run_call host.answer (.writeFile destination _) s₂).symm.trans hwrite)
  obtain ⟨place, name, hlands, hfiles⟩ := Files.write_eq_ok_iff.1 hfiles
  rw [hfiles]
  exact hlands.read_withFile _

end Host

/-- A plan that fetches two documents under different keys and then writes is all or nothing. -/
theorem exporting_allOrNothing (host : Host σ) (s : σ)
    {assignments : α → β → List (String × Except Error String)}
    (hassignments : ∀ a b, Computes (assignments a b) (properties a b))
    (hne : ∀ k, first.key = .ok k → second.key ≠ .ok k) :
    AllOrNothing host bucket first second assignments destination
      (exporting bucket first second properties destination) s := by
  have hcourse := exporting_course host.answer bucket first second properties destination s
  refine ⟨fun e he hwrite => ?_, fun p hp => ?_, fun k hk => hcourse.starts hk, ?_,
    fun k' before x after hkey hshown hx => hcourse.inOrder hne hkey hshown hx, fun k hk => ?_⟩
  · rw [he] at hcourse
    exact host.files_run _ s (hcourse.isFetching_of_error hwrite)
  · rw [hp] at hcourse
    obtain ⟨a, b, hfirst, hsecond, hproperties⟩ := hcourse.documents
    have hcomputes := hassignments a b
    rw [hproperties] at hcomputes
    exact ⟨host.read_exporting (Prod.ext hp rfl), a, b, hfirst, hsecond, hcomputes⟩
  · obtain ⟨existed, bytes, existed', bytes', p, htold, htold', hp, hfollows⟩ := hcourse.follows hne
    refine ⟨existed, bytes, existed', bytes', p, htold, htold', fun a b ha hb => ?_, hfollows⟩
    rw [hp a b ha hb]
    exact hassignments a b
  · exact hcourse.notFound hk

end Runs

end Sync

/-! ### The two exports -/

/-- Properties that three fields are put into are there only if each of the fields is. -/
theorem Properties.exists_of_fields {x y z : Except Error String}
    {make : String → String → String → Properties} {p : Properties}
    (h : (x.bind fun a => y.bind fun b => z.bind fun c => .ok (make a b c)) = .ok p) :
    ∃ a b c, x = .ok a ∧ y = .ok b ∧ z = .ok c ∧ p = make a b c := by
  cases x with
  | error e => cases h
  | ok a =>
    cases y with
    | error e => cases h
    | ok b =>
      cases z with
      | error e => cases h
      | ok c => exact ⟨a, b, c, rfl, rfl, rfl, (Except.ok.inj h).symm⟩

/-- Properties that three fields are put into behind others are computed field by field, and the
first field that is not there is the error. -/
theorem Sync.computes_of_fields {x y z : Except Error String} (front : List (String × String))
    (kx ky kz : String) {make : String → String → String → Properties}
    (hmake : ∀ a b c, (make a b c).entries = front ++ [(kx, a), (ky, b), (kz, c)]) :
    Sync.Computes (front.map (fun entry => (entry.1, .ok entry.2)) ++ [(kx, x), (ky, y), (kz, z)])
      (x.bind fun a => y.bind fun b => z.bind fun c => .ok (make a b c)) := by
  have hfront : ∀ entry ∈ front.map fun entry => (entry.1, (.ok entry.2 : Except Error String)),
      entry.2.isOk := by
    rintro entry hentry
    obtain ⟨entry, -, rfl⟩ := List.mem_map.1 hentry
    rfl
  cases x with
  | error e => exact ⟨_, kx, _, rfl, hfront⟩
  | ok a =>
    cases y with
    | error e =>
      refine ⟨_ ++ [(kx, .ok a)], ky, [(kz, z)], by rw [List.append_assoc]; rfl, ?_⟩
      exact List.forall_mem_append.2 ⟨hfront, List.forall_mem_singleton.2 rfl⟩
    | ok b =>
      cases z with
      | error e =>
        refine ⟨_ ++ [(kx, .ok a), (ky, .ok b)], kz, [], by rw [List.append_assoc]; rfl, ?_⟩
        exact List.forall_mem_append.2 ⟨hfront, by simp [Except.isOk, Except.toBool]⟩
      | ok c =>
        change (make a b c).entries.map _ = _
        rw [hmake, List.map_append]
        rfl

namespace MetadataSync

/-- The common settings of a workspace. -/
def commonVars (workspace : String) : Sync.Source Document where
  key := BlobKey.workspaceFile workspace Document.commonVarsFile
  label := Document.commonVarsFile
  decode := Document.ofBytes

/-- The metadata of a workspace. -/
def metadata (workspace : String) : Sync.Source Metadata where
  key := BlobKey.workspaceFile workspace Metadata.fileName
  label := Metadata.fileName
  decode := Metadata.ofBytes

/-- The keys of the properties of a workspace in order, each with its value or why there is none. -/
def assignments (d : Document) (m : Metadata) : List (String × Except Error String) :=
  [("ASDB_IPS", .ok (Literal.listText m.nodes)), ("GW_IP", .ok m.gateway),
    ("STORAGE_PROVIDER", d.property "storage.provider"),
    ("ABS_VERSION", d.property "k8s.abs.version"), ("ASDB_VERSION", d.property "asdb.version")]

theorem setEnv_eq (s : MetadataSync) (workspace : String) :
    s.setEnv workspace = Sync.exporting s.target.bucket (commonVars workspace)
      (metadata workspace) properties s.propertiesPath := by
  simp only [setEnv, Sync.exporting, Sync.fetch, Plan.bind_eq, Plan.pure_eq, Plan.bind_assoc]
  rfl

theorem computes_properties (d : Document) (m : Metadata) :
    Sync.Computes (assignments d m) (properties d m) :=
  Sync.computes_of_fields [("ASDB_IPS", Literal.listText m.nodes), ("GW_IP", m.gateway)]
    "STORAGE_PROVIDER" "ABS_VERSION" "ASDB_VERSION" fun _ _ _ => rfl

/-- The two documents of a workspace have two keys. -/
theorem keys_ne (workspace : String) (k : BlobKey) (hk : (commonVars workspace).key = .ok k) :
    (metadata workspace).key ≠ .ok k := fun hk' =>
  BlobKey.workspaceFile_ne hk hk' (by decide +kernel) rfl

end MetadataSync

namespace ExportSync

/-- The common settings of a component of a workspace. -/
def component (workspace name : String) : Sync.Source Document where
  key := BlobKey.componentFile workspace name Document.commonVarsFile
  label := name ++ " " ++ Document.commonVarsFile
  decode := Document.ofBytes

/-- The keys of the properties of the two components in order, each with its value or why there is
none. -/
def assignments (database backup : Document) : List (String × Except Error String) :=
  [("ABS_STORAGE_PROVIDER", backup.property "k8s.abs.storage-provider"),
    ("ABS_IMAGE_TAG", backup.property "k8s.abs.image-tag"),
    ("ASDB_VERSION", database.property "asdb.version")]

theorem run_eq (s : ExportSync) (workspace : String) :
    s.run workspace = Sync.exporting s.bucket (component workspace databaseComponent)
      (component workspace backupComponent) properties s.destination := by
  simp only [run, componentVars, Sync.exporting, Sync.fetch, Plan.bind_eq, Plan.pure_eq,
    Plan.bind_assoc]
  rfl

theorem computes_properties (database backup : Document) :
    Sync.Computes (assignments database backup) (properties database backup) :=
  Sync.computes_of_fields [] "ABS_STORAGE_PROVIDER" "ABS_IMAGE_TAG" "ASDB_VERSION"
    fun _ _ _ => rfl

/-- The two components of a workspace have two keys. -/
theorem keys_ne (workspace : String) (k : BlobKey)
    (hk : (component workspace databaseComponent).key = .ok k) :
    (component workspace backupComponent).key ≠ .ok k := fun hk' =>
  BlobKey.componentFile_ne hk hk' (by decide +kernel) rfl

end ExportSync

namespace Sync

/-- Both exports are all or nothing, for every workspace, whatever the store answers and whatever
the files were before: that of the common settings and the metadata of a workspace, which asks for
them in this order and writes five properties, and that of the common settings of the database and
of the backup service, which asks for them in this order and writes three. -/
theorem exports_allOrNothing {σ : Type} (host : Host σ) (s : σ) (workspace : String) :
    (∀ sync : MetadataSync,
      AllOrNothing host sync.target.bucket (MetadataSync.commonVars workspace)
        (MetadataSync.metadata workspace) MetadataSync.assignments sync.propertiesPath
        (sync.setEnv workspace) s) ∧
    ∀ sync : ExportSync,
      AllOrNothing host sync.bucket (ExportSync.component workspace ExportSync.databaseComponent)
        (ExportSync.component workspace ExportSync.backupComponent) ExportSync.assignments
        sync.destination (sync.run workspace) s := by
  constructor
  · intro sync
    rw [MetadataSync.setEnv_eq]
    exact exporting_allOrNothing host s MetadataSync.computes_properties
      (MetadataSync.keys_ne workspace)
  · intro sync
    rw [ExportSync.run_eq]
    exact exporting_allOrNothing host s ExportSync.computes_properties
      (ExportSync.keys_ne workspace)

/-- A bucket in memory beside files in memory. -/
def sampleHost : Host (Files × MemoryBucket) := .beside MemoryBucket.perform

/-- Properties from before, and a bucket with the common settings of a workspace, and its metadata
if they are given. -/
def exportState (metadata : Option String) : Files × MemoryBucket where
  fst := {
    root := .directory
      [("stage", .directory [("env.properties", .file (Bytes.ofText "OLD=1\n"))])] }
  snd := {
    name := "vars"
    isThere := true
    blobs :=
      (⟨"dev/common_vars.yaml".toList⟩, Bytes.ofText World.sampleText) ::
        (metadata.map fun text => (⟨"dev/metadata.yaml".toList⟩, Bytes.ofText text)).toList }

/-- The same properties, and a bucket with the common settings of the database of a workspace, and
those of the backup service if they are given. -/
def componentState (backup : Option String) : Files × MemoryBucket where
  fst := (exportState none).1
  snd := {
    name := "vars"
    isThere := true
    blobs :=
      (⟨"dev/asdb/common_vars.yaml".toList⟩, Bytes.ofText World.sampleText) ::
        (backup.map fun text =>
          (⟨"dev/abs/common_vars.yaml".toList⟩, Bytes.ofText text)).toList }

/-- The export of the components in the small world. -/
def sampleExport : ExportSync := ⟨World.sample.holder.bucketName, ⟨"/stage/env.properties"⟩⟩

/-- The call writes a file. -/
def isWriting : Call → Bool
  | .writeFile .. => true
  | _ => false

namespace AllOrNothing

variable {host : Host σ} {s : σ} {bucket : String} {first : Source α} {second : Source β}
variable {assignments : α → β → List (String × Except Error String)} {destination : Path}
variable {plan : Plan Properties}

theorem files_of_error
    (h : AllOrNothing host bucket first second assignments destination plan s)
    (hresult : (plan.run host.answer s).1.isOk = false)
    (hcalls : (plan.calls host.answer s).any (fun x => isWriting x.1) = false) :
    host.files (plan.run host.answer s).2 = host.files s := by
  cases hrun : (plan.run host.answer s).1 with
  | error e =>
    refine h.unchanged e hrun fun bytes e' hmem => ?_
    simpa [isWriting] using List.any_eq_false.1 hcalls _ hmem
  | ok p =>
    rw [hrun] at hresult
    cases hresult

theorem read_of_render
    (h : AllOrNothing host bucket first second assignments destination plan s) {text : String}
    (hrender : (plan.run host.answer s).1.map Properties.render = .ok text) :
    (host.files (plan.run host.answer s).2).read destination = .ok (Bytes.ofText text) := by
  cases hrun : (plan.run host.answer s).1 with
  | error e =>
    rw [hrun] at hrender
    cases hrender
  | ok p =>
    rw [hrun] at hrender
    rw [(h.written p hrun).1, Except.ok.inj hrender]

end AllOrNothing

/-- Metadata that are missing, or that are no metadata, leave the old properties, and metadata that
are there replace them. The export of the components asks for the database first, leaves the old
properties if the backup service has no settings, and replaces them if it has. -/
theorem exports_allOrNothing_sample :
    (∀ metadata ∈ [none, some "gw-ip: 1"],
      (sampleHost.files ((sampleMetadata.setEnv "dev").run sampleHost.answer
          (exportState metadata)).2).read sampleMetadata.propertiesPath =
        .ok (Bytes.ofText "OLD=1\n")) ∧
    (sampleHost.files ((sampleMetadata.setEnv "dev").run sampleHost.answer
        (exportState (some "asdb-ips: [10.0.0.1]\ngw-ip: 10.0.0.9"))).2).read
      sampleMetadata.propertiesPath =
        .ok (Bytes.ofText (String.join
          ["ASDB_IPS=['10.0.0.1']\n", "GW_IP=10.0.0.9\n", "STORAGE_PROVIDER=nfs\n",
            "ABS_VERSION=7\n", "ASDB_VERSION=6.4.0\n"])) ∧
    (∃ answer rest, (sampleExport.run "dev").calls sampleHost.answer (componentState none) =
      ⟨.bucket (.blobExists ⟨"dev/asdb/common_vars.yaml".toList⟩), answer⟩ :: rest) ∧
    (sampleHost.files ((sampleExport.run "dev").run sampleHost.answer
        (componentState none)).2).read sampleExport.destination = .ok (Bytes.ofText "OLD=1\n") ∧
    (sampleHost.files ((sampleExport.run "dev").run sampleHost.answer (componentState
        (some "k8s:\n  abs:\n    storage-provider: nfs\n    image-tag: v7"))).2).read
      sampleExport.destination =
        .ok (Bytes.ofText (String.join
          ["ABS_STORAGE_PROVIDER=nfs\n", "ABS_IMAGE_TAG=v7\n", "ASDB_VERSION=6.4.0\n"])) := by
  have hmetadata (metadata : Option String) :=
    (exports_allOrNothing sampleHost (exportState metadata) "dev").1 sampleMetadata
  have hcomponents (backup : Option String) :=
    (exports_allOrNothing sampleHost (componentState backup) "dev").2 sampleExport
  refine ⟨fun metadata hmem => ?_, (hmetadata _).read_of_render (by decide +kernel),
    (hcomponents none).starts _ (by decide +kernel), ?_,
    (hcomponents _).read_of_render (by decide +kernel)⟩
  · have hfailed : ∀ metadata ∈ [none, some "gw-ip: 1"],
        ((sampleMetadata.setEnv "dev").run sampleHost.answer (exportState metadata)).1.isOk =
            false ∧
          ((sampleMetadata.setEnv "dev").calls sampleHost.answer (exportState metadata)).any
            (fun x => isWriting x.1) = false := by
      decide +kernel
    obtain ⟨hresult, hcalls⟩ := hfailed metadata hmem
    rw [(hmetadata metadata).files_of_error hresult hcalls]
    revert metadata
    decide +kernel
  · rw [(hcomponents none).files_of_error (by decide +kernel) (by decide +kernel)]
    decide +kernel

end Sync

end DeploySync
