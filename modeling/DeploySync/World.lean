import DeploySync.Bucket.Connect
import DeploySync.Bucket.Memory
import DeploySync.Sync.Call

/-!
# A world in memory

Synchronizations run on a world whose files, bucket and provisioning tool are values. Calls on the
bucket can be made to fail at will, which shows what an interrupted synchronization leaves behind.

## Main definitions

* `World` — the files, the bucket, the outputs of the provisioning tool, and the calls made so far
* `World.Interruption` — a call on the bucket that is to fail
* `World.perform` — answers the calls of synchronizations
* `World.run` — runs a plan
-/

namespace DeploySync

namespace World

/-- What holds the bucket. -/
inductive Holder where
  | memory (bucket : MemoryBucket)
  | store (store : Store)

/-- The name of the bucket. -/
def Holder.bucketName : Holder → String
  | .memory b => b.name
  | .store s => s.bucketName

/-- A call on the bucket that is to fail: the `nth` one of its name, counted from one. -/
structure Interruption where
  call : String
  nth : Nat
  message : String
  deriving DecidableEq, Repr

end World

/-- A world in memory. -/
structure World where
  surroundings : Store.Surroundings
  holder : World.Holder
  outputs : List (String × String) := []
  interruptions : List World.Interruption := []
  /-- The calls on the bucket so far, the last one first. -/
  calls : List Bucket.Call := []
  /-- The outputs asked for so far, the last one first. -/
  queries : List (Path × String) := []

namespace World

/-- The files. -/
def files (w : World) : Files := w.surroundings.files

/-- The world with other files. -/
def withFiles (w : World) (files : Files) : World :=
  { w with surroundings := { w.surroundings with files := files } }

/-- The interruption of the call that was made last. -/
def interruption? (w : World) (c : Bucket.Call) : Option Interruption :=
  let count := (w.calls.filter fun other => other.name == c.name).length
  w.interruptions.find? fun i => i.call == c.name && i.nth == count

/-- The bucket answers a call. -/
def answer (w : World) (c : Bucket.Call) : Except Error c.Answer × World :=
  match w.holder with
  | .memory b =>
    let (a, b) := b.perform c
    (a, { w with holder := .memory b })
  | .store s =>
    let (a, surroundings) := s.perform c w.surroundings
    (a, { w with surroundings := surroundings })

/-- A call on the bucket is noted and then interrupted or answered. -/
def onBucket (w : World) (c : Bucket.Call) : Except Error c.Answer × World :=
  let w := { w with calls := c :: w.calls }
  match w.interruption? c with
  | some i => (.error (.storage (.other i.message)), w)
  | none => w.answer c

/-- Answers a call of a synchronization. -/
def perform : Plan.Handler Sync.Call Sync.Call.Answer World
  | .bucket c, w => w.onBucket c
  | .output dir name, w =>
    let w := { w with queries := (dir, name) :: w.queries }
    match w.outputs.lookup name with
    | some raw => (.ok raw, w)
    | none =>
      (.error (.process (.other s!"terragrunt output {name} exited with 1")), w)
  | .readFile p, w => (Files.failed p (w.files.read p), w)
  | .writeFile p bytes, w =>
    let (a, files) := Files.perform (.write p bytes) w.files
    (a, w.withFiles files)

/-- Runs a plan. -/
def run {α : Type} (w : World) (p : Sync.Plan α) : Except Error α × World := p.run perform w

end World

end DeploySync
