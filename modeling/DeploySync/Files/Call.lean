import DeploySync.Bytes
import DeploySync.Files.Basic
import DeploySync.Plan

/-!
# Calls on files

## Main definitions

* `Files.Call`, `Files.Call.Answer` — what can be asked of a file system
* `Files.perform` — a tree in memory that answers
* `Files.readText` — the plan that reads a file as a text
-/

namespace DeploySync.Files

/-- What can be asked of a file system. -/
inductive Call where
  | isDirectory (p : Path)
  | isFile (p : Path)
  | holds (p : Path)
  | read (p : Path)
  | write (p : Path) (bytes : ByteArray)
  | createDirectories (p : Path)

/-- The type of the answer to a call. -/
def Call.Answer : Call → Type
  | .isDirectory _ => Bool
  | .isFile _ => Bool
  | .holds _ => Bool
  | .read _ => ByteArray
  | .write .. => Unit
  | .createDirectories _ => Unit

/-- The error of a file that could not be read or written. -/
def failed {α : Type} (p : Path) : Except FileFault α → Except Error α
  | .ok a => .ok a
  | .error fault => .error (.localFile p fault)

/-- Keeps the old files where there are no new ones. -/
private def changed (f : Files) (p : Path) : Except FileFault Files → Except Error Unit × Files
  | .ok g => (.ok (), g)
  | .error fault => (.error (.localFile p fault), f)

/-- A call that may have changed files although it failed. -/
private def attempted (p : Path) : Except FileFault Unit × Files → Except Error Unit × Files
  | (result, g) => (failed p result, g)

/-- Answers a call on files in memory. -/
def perform : Plan.Handler Call Call.Answer Files
  | .isDirectory p, f => (.ok (f.isDirectory p), f)
  | .isFile p, f => (.ok (f.isFile p), f)
  | .holds p, f => (.ok (f.holds p), f)
  | .read p, f => (failed p (f.read p), f)
  | .write p bytes, f => changed f p (f.write p bytes)
  | .createDirectories p, f => attempted p (f.createDirectories p)

/-- The text of a file's bytes. -/
def textOf (p : Path) (bytes : ByteArray) : Except Error String :=
  match Bytes.text? bytes with
  | some s => .ok s
  | none => .error (.localFile p .notText)

/-- Reads a file as a text. -/
def readText (p : Path) : Plan Call Call.Answer String := do
  let bytes ← Plan.call (Call.read p)
  Plan.ofExcept (textOf p bytes)

end DeploySync.Files
