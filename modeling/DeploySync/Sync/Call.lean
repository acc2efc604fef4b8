import DeploySync.Bucket.Call
import DeploySync.Files.Call

/-!
# Calls of the synchronizations

Settings and addresses travel between files, the bucket and the provisioning tool.

## Main definitions

* `Sync.Call`, `Sync.Call.Answer` — what a synchronization asks for
* `Sync.Plan` — plans over these calls
-/

namespace DeploySync.Sync

/-- What a synchronization asks for. -/
inductive Call where
  | bucket (c : Bucket.Call)
  /-- An output of a module of the provisioning tool. -/
  | output (moduleDir : Path) (name : String)
  | readFile (p : Path)
  | writeFile (p : Path) (bytes : ByteArray)

/-- The type of the answer to a call. -/
def Call.Answer : Call → Type
  | .bucket c => c.Answer
  | .output .. => String
  | .readFile _ => ByteArray
  | .writeFile .. => Unit

/-- A plan over these calls. -/
abbrev Plan := DeploySync.Plan Call Call.Answer

/-- The plan of a single call on the bucket. -/
def onBucket (c : Bucket.Call) : Plan c.Answer := DeploySync.Plan.call (Call.bucket c)

/-- Reads an output of the provisioning tool. -/
def output (moduleDir : Path) (name : String) : Plan String :=
  DeploySync.Plan.call (Call.output moduleDir name)

/-- Writes a file. -/
def writeFile (p : Path) (bytes : ByteArray) : Plan Unit :=
  DeploySync.Plan.call (Call.writeFile p bytes)

/-- Reads a file as a text. -/
def readText (p : Path) : Plan String := do
  let bytes ← DeploySync.Plan.call (Call.readFile p)
  DeploySync.Plan.ofExcept (Files.textOf p bytes)

end DeploySync.Sync
