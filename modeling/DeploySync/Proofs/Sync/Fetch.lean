import DeploySync.Proofs.Sync.Steps

/-!
# Fetches

A document that has to be there is looked up, downloaded and read. The first of these that fails
ends the fetch, and which one that is depends on what the store answers and on nothing else.

## Main definitions

* `Sync.Source`, `Sync.fetch` — a document that has to be there, and how it is fetched
* `Sync.Fetches` — the courses that a fetch can take
* `Sync.fetching`, `Sync.Told` — the places that a fetch goes through, given what the store told

## Main results

* `Sync.fetch_course` — a fetch takes no other course
* `Sync.Fetches.follows` — a fetch goes through its places
* `Sync.Fetches.notFound` — a document that is not there is named in the error
-/

namespace DeploySync.Sync

open Plan (Handler Answered Answers Follows)

variable {σ α : Type}

/-- A document that has to be there: its key, its name in errors, and how its bytes are read. -/
structure Source (α : Type) where
  key : Except Error BlobKey
  label : String
  decode : ByteArray → Except Error α

/-- The document was downloaded and read. -/
def Source.Downloaded (d : Source α) (shown : List (Answered Call Call.Answer)) (a : α) : Prop :=
  ∃ (k : BlobKey) (bytes : ByteArray), d.key = .ok k ∧
    ⟨.bucket (.download k), .ok bytes⟩ ∈ shown ∧ d.decode bytes = .ok a

/-- Fetches a document. -/
def fetch (bucket : String) (d : Source α) : Plan α :=
  (Plan.ofExcept d.key).bind fun key =>
    (fetchRequired bucket key d.label).bind fun bytes => Plan.ofExcept (d.decode bytes)

/-! ### Courses -/

/-- The courses that the fetch of a document can take: the calls it makes with what is answered, and
its result. -/
inductive Fetches (bucket : String) (d : Source α) :
    List (Answered Call Call.Answer) → Except Error α → Prop
  | keyless {e : Error} (hkey : d.key = .error e) : Fetches bucket d [] (.error e)
  | lookupFailed {k : BlobKey} {e : Error} (hkey : d.key = .ok k) :
      Fetches bucket d [⟨.bucket (.blobExists k), .error e⟩] (.error e)
  | absent {k : BlobKey} (hkey : d.key = .ok k) :
      Fetches bucket d [⟨.bucket (.blobExists k), .ok false⟩]
        (.error (.notFound (.document d.label bucket k.text)))
  | downloadFailed {k : BlobKey} {e : Error} (hkey : d.key = .ok k) :
      Fetches bucket d
        [⟨.bucket (.blobExists k), .ok true⟩, ⟨.bucket (.download k), .error e⟩] (.error e)
  | downloaded {k : BlobKey} {bytes : ByteArray} (hkey : d.key = .ok k) :
      Fetches bucket d
        [⟨.bucket (.blobExists k), .ok true⟩, ⟨.bucket (.download k), .ok bytes⟩]
        (d.decode bytes)

section Courses

variable {bucket : String} {d : Source α}

/-- What follows the answer whether the document is there. -/
def decodeIf (bucket : String) (d : Source α) (k : BlobKey) :
    (Call.bucket (.blobExists k)).Answer → Plan α
  | true => .ask (.bucket (.download k)) fun bytes => Plan.ofExcept (d.decode bytes)
  | false => Plan.fail (.notFound (.document d.label bucket k.text))

theorem fetch_eq {k : BlobKey} (hkey : d.key = .ok k) :
    fetch bucket d = .ask (.bucket (.blobExists k)) (decodeIf bucket d k) := by
  rw [fetch, hkey, Plan.ofExcept, Plan.bind_done_ok, fetchRequired_eq]
  refine congrArg (Plan.ask _) (funext fun isThere : Bool => ?_)
  cases isThere <;> rfl

/-- A fetch takes one of these courses. -/
theorem fetch_course (h : Handler Call Call.Answer σ) (bucket : String) (d : Source α) (s : σ) :
    Fetches bucket d ((fetch bucket d).calls h s) ((fetch bucket d).run h s).1 := by
  cases hkey : d.key with
  | error e =>
    rw [fetch, hkey]
    exact .keyless hkey
  | ok k =>
    rw [fetch_eq hkey]
    rcases hexists : h (.bucket (.blobExists k)) s with ⟨e | isThere, t⟩
    · rw [Plan.calls_ask_error hexists, Plan.run_ask_error hexists]
      exact .lookupFailed hkey
    · rw [Plan.calls_ask_ok hexists, Plan.run_ask_ok hexists]
      change Bool at isThere
      cases isThere with
      | false => exact .absent hkey
      | true =>
        -- the blob was there, and may be gone by the time it is asked for
        rcases hdownload : h (.bucket (.download k)) t with ⟨e | bytes, u⟩
        · rw [decodeIf, Plan.calls_ask_error hdownload, Plan.run_ask_error hdownload]
          exact .downloadFailed hkey
        · rw [decodeIf, Plan.calls_ask_ok hdownload, Plan.run_ask_ok hdownload]
          exact .downloaded hkey

/-- A fetch that succeeds has made both of its calls. -/
theorem Fetches.eq_of_ok {shown : List (Answered Call Call.Answer)} {a : α}
    (hfetch : Fetches bucket d shown (.ok a)) :
    ∃ (k : BlobKey) (bytes : ByteArray), d.key = .ok k ∧ d.decode bytes = .ok a ∧
      shown = [⟨.bucket (.blobExists k), .ok true⟩, ⟨.bucket (.download k), .ok bytes⟩] := by
  generalize hresult : (Except.ok a : Except Error α) = result at hfetch
  cases hfetch with
  | downloaded hkey => exact ⟨_, _, hkey, hresult ▸ rfl, rfl⟩
  | _ => cases hresult

end Courses

/-! ### What every course keeps to -/

/-- What is read adds no place to a script, unless it cannot be read. -/
def failing : Except Error α → List (Except Error Call)
  | .ok _ => []
  | .error e => [.error e]

/-- The places that the fetch of a document goes through, given the answers of the store. It looks
the document up and downloads it if it is there, and it ends if there is no key, if the document is
not there, or if it cannot be read. -/
def fetching (bucket : String) (d : Source α) (existed : Bool) (bytes : ByteArray) :
    List (Except Error Call) :=
  match d.key with
  | .error e => [.error e]
  | .ok k => .ok (.bucket (.blobExists k)) ::
    if existed then .ok (.bucket (.download k)) :: failing (d.decode bytes)
    else [.error (.notFound (.document d.label bucket k.text))]

/-- What the store told of a document in a run: whether it is there, and its bytes. -/
structure Told (d : Source α) (shown : List (Answered Call Call.Answer)) (existed : Bool)
    (bytes : ByteArray) : Prop where
  existed : ∀ k, d.key = .ok k → Answers shown (.bucket (.blobExists k)) existed
  bytes : ∀ k, d.key = .ok k → Answers shown (.bucket (.download k)) bytes

/-- The call asks for a key. -/
def AsksFor (k : BlobKey) (q : Call) : Prop :=
  q = .bucket (.blobExists k) ∨ q = .bucket (.download k)

theorem AsksFor.eq {k k' : BlobKey} {q : Call} (h : AsksFor k q) (h' : AsksFor k' q) : k = k' := by
  rcases h with rfl | rfl <;> rcases h' with h' | h' <;> cases h' <;> rfl

/-- What was told of a document in one run was told in another one that asks for it nowhere else. -/
theorem Told.mono {d : Source α} {shown shown' : List (Answered Call Call.Answer)} {existed : Bool}
    {bytes : ByteArray} (h : Told d shown existed bytes)
    (hmem : ∀ k, d.key = .ok k → ∀ x ∈ shown', AsksFor k x.1 → x ∈ shown) :
    Told d shown' existed bytes where
  existed := fun k hk a ha => h.existed k hk a (hmem k hk _ ha (.inl rfl))
  bytes := fun k hk a ha => h.bytes k hk a (hmem k hk _ ha (.inr rfl))

theorem told_nil (d : Source α) (existed : Bool) (bytes : ByteArray) : Told d [] existed bytes :=
  ⟨fun _ _ _ ha => absurd ha List.not_mem_nil, fun _ _ _ ha => absurd ha List.not_mem_nil⟩

/-- What a lookup alone tells. -/
theorem told_lookup {d : Source α} {k : BlobKey} (hkey : d.key = .ok k)
    {answer : Except Error Bool} {existed : Bool} (h : ∀ a, answer = .ok a → a = existed)
    (bytes : ByteArray) : Told d [⟨.bucket (.blobExists k), answer⟩] existed bytes := by
  refine ⟨fun k' hk' a ha => ?_, fun k' hk' a ha => ?_⟩ <;>
    obtain rfl := Except.ok.inj (hkey.symm.trans hk') <;>
    cases List.mem_singleton.1 ha
  exact h a rfl

/-- What a download behind its lookup tells. -/
theorem told_download {d : Source α} {k : BlobKey} (hkey : d.key = .ok k)
    {answer : Except Error ByteArray} {bytes : ByteArray} (h : ∀ a, answer = .ok a → a = bytes) :
    Told d [⟨.bucket (.blobExists k), .ok true⟩, ⟨.bucket (.download k), answer⟩] true bytes := by
  refine ⟨fun k' hk' a ha => ?_, fun k' hk' a ha => ?_⟩ <;>
    obtain rfl := Except.ok.inj (hkey.symm.trans hk') <;>
    rcases List.mem_cons.1 ha with ha | ha
  · cases ha
    rfl
  · cases List.mem_singleton.1 ha
  · cases ha
  · cases List.mem_singleton.1 ha
    exact h a rfl

/-- The call reads from the bucket. -/
def IsFetching (q : Call) : Prop := ∃ k, AsksFor k q

namespace Fetches

variable {bucket : String} {d : Source α} {shown shown' : List (Answered Call Call.Answer)}
variable {result : Except Error α} {a : α}

/-- A fetch asks for its own key only. -/
theorem asksFor (h : Fetches bucket d shown result) :
    ∀ x ∈ shown, ∃ k, d.key = .ok k ∧ AsksFor k x.1 := by
  cases h with
  | keyless hkey => simp
  | lookupFailed hkey => simp [hkey, AsksFor]
  | absent hkey => simp [hkey, AsksFor]
  | downloadFailed hkey => simp [hkey, AsksFor]
  | downloaded hkey => simp [hkey, AsksFor]

theorem isFetching (h : Fetches bucket d shown result) : ∀ x ∈ shown, IsFetching x.1 := by
  intro x hx
  obtain ⟨k, -, hk⟩ := h.asksFor x hx
  exact ⟨k, hk⟩

/-- A fetch that has a key begins with the lookup. -/
theorem starts (h : Fetches bucket d shown result) {k : BlobKey} (hkey : d.key = .ok k) :
    ∃ answer rest, shown = ⟨.bucket (.blobExists k), answer⟩ :: rest := by
  cases h with
  | keyless hkey' => cases hkey.symm.trans hkey'
  | lookupFailed hkey' =>
    obtain rfl := Except.ok.inj (hkey.symm.trans hkey')
    exact ⟨_, _, rfl⟩
  | absent hkey' =>
    obtain rfl := Except.ok.inj (hkey.symm.trans hkey')
    exact ⟨_, _, rfl⟩
  | downloadFailed hkey' =>
    obtain rfl := Except.ok.inj (hkey.symm.trans hkey')
    exact ⟨_, _, rfl⟩
  | downloaded hkey' =>
    obtain rfl := Except.ok.inj (hkey.symm.trans hkey')
    exact ⟨_, _, rfl⟩

/-- A fetch goes through its places, and gives what the bytes are read as. -/
theorem follows (h : Fetches bucket d shown result) :
    ∃ existed bytes, Told d shown existed bytes ∧
      Follows (fetching bucket d existed bytes) shown result ∧
      ∀ a, result = .ok a → d.decode bytes = .ok a := by
  cases h with
  | @keyless e hkey =>
    refine ⟨false, ByteArray.empty, told_nil d false _, ?_, fun a ha => by cases ha⟩
    rw [fetching, hkey]
    exact .stopped e
  | @lookupFailed k e hkey =>
    refine ⟨false, ByteArray.empty, told_lookup hkey (fun a ha => by cases ha) _, ?_,
      fun a ha => by cases ha⟩
    rw [fetching, hkey]
    exact .failed _ e
  | absent hkey =>
    refine ⟨false, ByteArray.empty, told_lookup hkey (fun a ha => (Except.ok.inj ha).symm) _, ?_,
      fun a ha => by cases ha⟩
    rw [fetching, hkey]
    exact .asked (.stopped _)
  | @downloadFailed k e hkey =>
    refine ⟨true, ByteArray.empty, told_download hkey (fun a ha => by cases ha), ?_,
      fun a ha => by cases ha⟩
    rw [fetching, hkey]
    exact .asked (.failed _ e)
  | @downloaded k bytes hkey =>
    refine ⟨true, bytes, told_download hkey (fun a ha => (Except.ok.inj ha).symm), ?_,
      fun _ ha => ha⟩
    rw [fetching, hkey]
    refine .asked (.asked ?_)
    -- what was downloaded can be read, or the fetch ends there
    cases d.decode bytes with
    | error e => exact .stopped e
    | ok a => exact .done a

/-- A document that is not there is named in the error. -/
theorem notFound (h : Fetches bucket d shown result) {k : BlobKey}
    (hmem : ⟨.bucket (.blobExists k), .ok false⟩ ∈ shown) :
    d.key = .ok k ∧ result = .error (.notFound (.document d.label bucket k.text)) := by
  cases h with
  | keyless hkey => simp at hmem
  | absent hkey =>
    simp at hmem
    obtain ⟨rfl, -⟩ := hmem
    exact ⟨hkey, rfl⟩
  | _ =>
    -- the answer was another one
    simp at hmem
    obtain ⟨rfl, hanswer⟩ := hmem
    cases hanswer

end Fetches

end DeploySync.Sync
