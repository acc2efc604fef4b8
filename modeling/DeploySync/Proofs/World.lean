import DeploySync.Proofs.Bucket.Memory
import DeploySync.Proofs.Files.Writing
import DeploySync.Proofs.Plan
import DeploySync.Proofs.Yaml.Equality
import DeploySync.World

/-!
# Runs on a world in memory

Synchronizations run one after the other on a world with a bucket in memory, and in each of them any
calls on the bucket may fail without reaching it. What a later one finds is what the earlier ones
left behind.

## Main definitions

* `World.Holds` — the bucket of a world is one in memory
* `World.Faulty` — answers as the world does, except that calls on the bucket can fail
* `World.Turn`, `World.after`, `World.shown` — synchronizations in sequence
* `World.Later` — what is left of a world if nothing is uploaded under some keys

## Main results

* `World.Faulty.answer_bucket` — what a call on the bucket can do
* `World.not_uploaded_of_asks` — plans that never upload under a key
* `World.later_after` — whatever is done in between, blobs and directories are left
-/

namespace DeploySync.World

variable {w w' w'' : World} {b b' : MemoryBucket}

/-- The bucket of the world is one in memory, and no call on it is to fail. -/
structure Holds (w : World) (b : MemoryBucket) : Prop where
  holder : w.holder = .memory b
  interruptions : w.interruptions = []

theorem Holds.eq (h : w.Holds b) (h' : w.Holds b') : b = b' :=
  Holder.memory.inj (h.holder.symm.trans h'.holder)

/-- The world behind a call on its bucket. -/
def behind (w : World) (c : Bucket.Call) (b : MemoryBucket) : World :=
  { w with calls := c :: w.calls, holder := .memory b }

theorem Holds.behind (hw : w.Holds b) (c : Bucket.Call) (b' : MemoryBucket) :
    (w.behind c b').Holds b' := ⟨rfl, hw.interruptions⟩

/-- The bucket in memory answers the calls on the bucket. -/
theorem perform_bucket (hw : w.Holds b) (c : Bucket.Call) :
    perform (.bucket c) w = ((b.perform c).1, w.behind c (b.perform c).2) := by
  have hnone : ({ w with calls := c :: w.calls } : World).interruption? c = none := by
    rw [interruption?, hw.interruptions, List.find?_nil]
  rw [perform, onBucket, hnone]
  dsimp only
  rw [answer, hw.holder]
  rfl

/-! ### Calls that fail -/

/-- What answers the calls of a synchronization as the world does, except that it makes calls on the
bucket fail. A call that is made to fail does not reach the bucket. -/
structure Faulty where
  answer : Plan.Handler Sync.Call Sync.Call.Answer World
  answer_eq : ∀ q w, answer q w = perform q w ∨
    ∃ c e, q = .bucket c ∧ answer q w = (.error e, { w with calls := c :: w.calls })

/-- The world itself makes no call fail. -/
def faultless : Faulty := ⟨perform, fun _ _ => Or.inl rfl⟩

namespace Faulty

/-- Makes the one call on the bucket fail that has so many calls before it. -/
def failingAt (n : Nat) (e : Error) : Faulty where
  answer
    | .bucket c, w =>
      if w.calls.length = n then (.error e, { w with calls := c :: w.calls })
      else perform (.bucket c) w
    | q, w => perform q w
  answer_eq q w := by
    cases q with
    | bucket c =>
      dsimp only
      split_ifs
      · exact Or.inr ⟨c, e, rfl, rfl⟩
      · exact Or.inl rfl
    | _ => exact Or.inl rfl

variable (h : Faulty)

/-- A call on the bucket is answered by it, or fails and leaves it alone. -/
theorem answer_bucket (hw : w.Holds b) (c : Bucket.Call) :
    h.answer (.bucket c) w = ((b.perform c).1, w.behind c (b.perform c).2) ∨
      ∃ e, h.answer (.bucket c) w = (.error e, w.behind c b) := by
  rcases h.answer_eq (.bucket c) w with heq | ⟨c', e, hc, heq⟩
  · exact Or.inl (heq.trans (perform_bucket hw c))
  · obtain rfl := Sync.Call.bucket.inj hc
    refine Or.inr ⟨e, heq.trans ?_⟩
    rw [behind, ← hw.holder]

theorem answer_output (dir : Path) (name : String) (w : World) :
    h.answer (.output dir name) w = perform (.output dir name) w := by
  rcases h.answer_eq (.output dir name) w with heq | ⟨c, e, hc, -⟩
  · exact heq
  · cases hc

theorem answer_readFile (p : Path) (w : World) :
    h.answer (.readFile p) w = (Files.failed p (w.files.read p), w) := by
  rcases h.answer_eq (.readFile p) w with heq | ⟨c, e, hc, -⟩
  · exact heq
  · cases hc

theorem answer_writeFile (p : Path) (bytes : ByteArray) (w : World) :
    h.answer (.writeFile p bytes) w = perform (.writeFile p bytes) w := by
  rcases h.answer_eq (.writeFile p bytes) w with heq | ⟨c, e, hc, -⟩
  · exact heq
  · cases hc

end Faulty

/-- An output is looked up, and nothing but the query is noted. -/
theorem perform_output (dir : Path) (name : String) (w : World) :
    (perform (.output dir name) w).2 = { w with queries := (dir, name) :: w.queries } := by
  rw [perform]
  dsimp only
  cases w.outputs.lookup name <;> rfl

/-- A write puts a file into a directory, or fails and leaves the files alone. -/
theorem perform_writeFile (p : Path) (bytes : ByteArray) (w : World) :
    (∃ place name, w.files.Lands p place name ∧
      perform (.writeFile p bytes) w =
        (.ok (), w.withFiles (w.files.withFile (place ++ [name]) bytes))) ∨
      ¬ w.files.Writable p ∧
        ∃ fault, perform (.writeFile p bytes) w = (.error (.localFile p fault), w) := by
  rcases hwrite : w.files.write p bytes with fault | files
  · refine Or.inr ⟨?_, fault, ?_⟩
    · rintro ⟨place, name, hp⟩
      rw [Files.write_eq_ok_iff.2 ⟨place, name, hp, rfl⟩] at hwrite
      cases hwrite
    · rw [perform, Files.perform, hwrite]
      rfl
  · obtain ⟨place, name, hp, rfl⟩ := Files.write_eq_ok_iff.1 hwrite
    refine Or.inl ⟨place, name, hp, ?_⟩
    rw [perform, Files.perform, hwrite]
    rfl

/-- Where a file can be written, writing it succeeds. -/
theorem perform_writeFile_ok {p : Path} (hp : w.files.Writable p) (bytes : ByteArray) :
    ∃ place name, w.files.Lands p place name ∧
      perform (.writeFile p bytes) w =
        (.ok (), w.withFiles (w.files.withFile (place ++ [name]) bytes)) := by
  rcases perform_writeFile p bytes w with h | ⟨hnot, -⟩
  · exact h
  · exact absurd hp hnot

/-- Where no file can be written, writing one fails and changes nothing. -/
theorem perform_writeFile_error {p : Path} (hp : ¬ w.files.Writable p) (bytes : ByteArray) :
    ∃ fault, perform (.writeFile p bytes) w = (.error (.localFile p fault), w) := by
  rcases perform_writeFile p bytes w with ⟨place, name, hplace, -⟩ | ⟨-, h⟩
  · exact absurd ⟨place, name, hplace⟩ hp
  · exact h

/-! ### Synchronizations in sequence -/

/-- A call of a synchronization with what was answered. -/
abbrev Shown := Plan.Answered Sync.Call Sync.Call.Answer

/-- A synchronization, and what answers its calls. -/
structure Turn where
  faulty : Faulty
  Result : Type
  plan : Sync.Plan Result

/-- The world behind synchronizations that run one after the other. -/
def after : List Turn → World → World
  | [], w => w
  | turn :: rest, w => after rest (turn.plan.run turn.faulty.answer w).2

/-- The calls of synchronizations that run one after the other. -/
def shown : List Turn → World → List Shown
  | [], _ => []
  | turn :: rest, w =>
    turn.plan.calls turn.faulty.answer w ++ shown rest (turn.plan.run turn.faulty.answer w).2

/-- A blob was uploaded under the key. -/
def Uploaded (calls : List Shown) (key : BlobKey) : Prop :=
  ∃ bytes, ⟨.bucket (.upload key bytes), .ok ()⟩ ∈ calls

/-- What a world leaves to a later one if nothing is uploaded under some keys in between: the blobs
under these keys, the bucket, the directories, and the places of files that can be written. -/
structure Later (keys : List BlobKey) (w w' : World) : Prop where
  bucket : ∀ b, w.Holds b →
    ∃ b', w'.Holds b' ∧ (∀ k ∈ keys, b'.blob? k = b.blob? k) ∧ (b.isThere → b'.isThere)
  directories : ∀ p, w.files.isDirectory p → w'.files.isDirectory p
  lands : ∀ p place name, w.files.Lands p place name → w'.files.Lands p place name

namespace Later

variable {keys : List BlobKey}

theorem refl (keys : List BlobKey) (w : World) : Later keys w w :=
  ⟨fun b hw => ⟨b, hw, fun _ _ => rfl, id⟩, fun _ => id, fun _ _ _ => id⟩

theorem trans (h : Later keys w w') (h' : Later keys w' w'') : Later keys w w'' where
  bucket b hw := by
    obtain ⟨b', hw', hblobs, hthere⟩ := h.bucket b hw
    obtain ⟨b'', hw'', hblobs', hthere'⟩ := h'.bucket b' hw'
    exact ⟨b'', hw'', fun k hk => (hblobs' k hk).trans (hblobs k hk), hthere' ∘ hthere⟩
  directories p := h'.directories p ∘ h.directories p
  lands p place name := h'.lands p place name ∘ h.lands p place name

theorem writable (h : Later keys w w') {p : Path} (hp : w.files.Writable p) :
    w'.files.Writable p := by
  obtain ⟨place, name, hp⟩ := hp
  exact ⟨place, name, h.lands p place name hp⟩

/-- A world with the same files and the same bucket is as good as the world itself. -/
theorem of_eq (hholder : w'.holder = w.holder) (hinterruptions : w'.interruptions = w.interruptions)
    (hfiles : w'.files = w.files) : Later keys w w' where
  bucket b hw :=
    ⟨b, ⟨hholder.trans hw.holder, hinterruptions.trans hw.interruptions⟩, fun _ _ => rfl, id⟩
  directories p hp := by rwa [hfiles]
  lands p place name hp := by rwa [hfiles]

end Later

/-- A call on the bucket that does not upload under the keys leaves what stands under them. -/
theorem later_behind (hw : w.Holds b) {keys : List BlobKey} (c : Bucket.Call)
    (hc : ∀ k ∈ keys, ¬ Uploaded [⟨.bucket c, (b.perform c).1⟩] k) :
    Later keys w (w.behind c (b.perform c).2) := by
  refine ⟨fun b' hw' => ?_, fun _ => id, fun _ _ _ => id⟩
  obtain rfl := hw.eq hw'
  refine ⟨_, hw.behind c _, fun k hk => ?_, fun hthere =>
    MemoryBucket.isThere_perform_of_isThere hthere c⟩
  rw [MemoryBucket.blob?_perform]
  -- only an upload changes a blob, and it is not one under the keys
  cases c with
  | upload key bytes =>
    dsimp only
    split_ifs with hkey
    · obtain ⟨hthere, rfl⟩ := hkey
      refine absurd ⟨bytes, ?_⟩ (hc k hk)
      rw [MemoryBucket.perform, if_pos hthere]
      exact List.mem_singleton_self _
    · rfl
  | _ => rfl

/-- A single call that does not upload under the keys leaves what stands under them. -/
theorem later_answer (h : Faulty) (hw : w.Holds b) {keys : List BlobKey} (q : Sync.Call)
    (hq : ∀ k ∈ keys, ¬ Uploaded [⟨q, (h.answer q w).1⟩] k) :
    Later keys w (h.answer q w).2 := by
  cases q with
  | bucket c =>
    rcases h.answer_bucket hw c with heq | ⟨e, heq⟩
    · rw [heq] at hq ⊢
      exact later_behind hw c hq
    · -- a call that fails does not reach the bucket
      rw [heq]
      refine ⟨fun b' hw' => ⟨b, hw.behind c b, ?_⟩, fun _ => id, fun _ _ _ => id⟩
      obtain rfl := hw.eq hw'
      exact ⟨fun _ _ => rfl, id⟩
  | output dir name =>
    rw [h.answer_output, perform_output]
    exact .of_eq rfl rfl rfl
  | readFile p =>
    rw [h.answer_readFile]
    exact .refl keys w
  | writeFile p bytes =>
    rw [h.answer_writeFile]
    rcases perform_writeFile p bytes w with ⟨place, name, hp, heq⟩ | ⟨-, fault, heq⟩
    · -- a file that is written leaves the directories and the places of other files
      rw [heq]
      exact ⟨fun b hw => ⟨b, ⟨hw.holder, hw.interruptions⟩, fun _ _ => rfl, id⟩,
        fun p' => hp.isDirectory_withFile bytes, fun p' place' name' hp' => hp'.withFile hp bytes⟩
    · rw [heq]
      exact .refl keys w

/-- Whatever synchronizations do, if they upload nothing under the keys, they leave what stands
under them. -/
theorem later_after {keys : List BlobKey} (turns : List Turn) (hw : w.Holds b)
    (hturns : ∀ k ∈ keys, ¬ Uploaded (shown turns w) k) : Later keys w (after turns w) := by
  induction turns generalizing w b with
  | nil => exact .refl keys w
  | cons turn rest ih =>
    have hturn : Later keys w (turn.plan.run turn.faulty.answer w).2 := by
      -- the bucket of the moment is found in what the calls so far have left
      refine Plan.run_invariant (fun x => ∀ k ∈ keys, ¬ Uploaded [x] k) ?_ turn.plan
        (.refl keys w) ?_
      · intro q v hv hq
        obtain ⟨b', hv', -⟩ := hv.bucket b hw
        exact hv.trans (later_answer turn.faulty hv' q hq)
      · rintro x hx k hk ⟨bytes, hmem⟩
        obtain rfl := List.mem_singleton.1 hmem
        exact hturns k hk ⟨bytes, List.mem_append_left _ hx⟩
    obtain ⟨b', hw', -⟩ := hturn.bucket b hw
    refine hturn.trans (ih hw' fun k hk => ?_)
    rintro ⟨bytes, hmem⟩
    exact hturns k hk ⟨bytes, List.mem_append_right _ hmem⟩

/-- Plans that never upload under the key upload nothing under it, whatever answers them. -/
theorem not_uploaded_of_asks {turns : List Turn} {key : BlobKey}
    (hturns : ∀ turn ∈ turns, turn.plan.Asks fun q => ∀ bytes, q ≠ .bucket (.upload key bytes))
    (w : World) : ¬ Uploaded (shown turns w) key := by
  induction turns generalizing w with
  | nil =>
    rintro ⟨bytes, hmem⟩
    cases hmem
  | cons turn rest ih =>
    rintro ⟨bytes, hmem⟩
    rcases List.mem_append.1 hmem with hfirst | hrest
    · exact Plan.forall_mem_calls (hturns turn (by simp)) w _ hfirst bytes rfl
    · exact ih (fun turn' hturn => hturns turn' (by simp [hturn])) _ ⟨bytes, hrest⟩

/-! ### A small world -/

/-- Settings that name a directory of an environment. -/
def sampleSettings : Settings where
  backend := .directory
  bucket := "vars"
  project := "project"
  region := "me-west1"
  zone := "me-west1-a"
  storageClass := .nearline
  endpoint := "http://localhost"
  accessToken := none
  directoryRoot := none
  listingBase := "http://localhost"
  suffix := ".tgz"
  distro := none
  arch := none
  version := none
  envDir := some ⟨"/stage"⟩
  commonVars := none
  provisioningTool := "terragrunt"

/-- A file of common settings. -/
def sampleText : String :=
  "workspace: dev\nstorage:\n  provider: nfs\nk8s:\n  abs:\n    version: 7\n" ++
    "asdb:\n  version: 6.4.0\n"

/-- What the file says. -/
def sampleDocument : Document where
  root := .mapping
    [(.string "workspace", .string "dev"),
      (.string "storage", .mapping [(.string "provider", .string "nfs")]),
      (.string "k8s", .mapping
        [(.string "abs", .mapping [(.string "version", .number (.whole 7))])]),
      (.string "asdb", .mapping [(.string "version", .string "6.4.0")])]

theorem parse_sampleText : Document.parse sampleText = .ok sampleDocument := by decide +kernel

theorem toYaml_sampleDocument : sampleDocument.toYaml = .ok sampleText := by decide +kernel

theorem parse_toYaml_sampleDocument :
    sampleDocument.toYaml.bind Document.parse = .ok sampleDocument := by
  rw [toYaml_sampleDocument, Except.bind, parse_sampleText]

/-- A world with that file in the directory of the environment, without a bucket. -/
def sample : World where
  surroundings := {
    files := {
      root := .directory
        [("stage", .directory [("common_vars.yaml", .file (Bytes.ofText sampleText))])] } }
  holder := .memory { name := "vars" }
  outputs := [("asdb_node_ips", "[\"10.0.0.1\"]"), ("gateway_ip", "\"10.0.0.9\"")]

theorem sample_holds : sample.Holds { name := "vars" } := ⟨rfl, rfl⟩

end DeploySync.World
