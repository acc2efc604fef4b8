import DeploySync.Files.Call
import DeploySync.Settings.EnvFile

/-!
# The environment with its file

The file of variables is looked for in the working directory and in the directories above it.

## Main definitions

* `Path.ancestors` — a directory and those above it
* `Settings.EnvFile.find` — the plan that finds the file
* `Settings.EnvFile.load` — the plan that adds the variables of the file to those of the process
* `Settings.EnvFile.loadOn` — the same on files in memory
-/

namespace DeploySync

/-- A directory and those above it, up to the root. -/
def Path.ancestors (dir : Path) : List Path :=
  let names := dir.names
  (List.range (names.length + 1)).map fun n =>
    ⟨"/" ++ String.intercalate "/" (names.take (names.length - n))⟩

namespace Settings.EnvFile

/-- Plans over calls on files. -/
abbrev FilePlan := Plan Files.Call Files.Call.Answer

/-- Finds the file in the first of the directories that has one. -/
def find : List Path → FilePlan (Option Path)
  | [] => return none
  | dir :: rest => do
    let path := dir.join fileName
    let isFile : Bool ← Plan.call (Files.Call.isFile path)
    if isFile then return some path else find rest

/-- The variables of the process, with those of the file added. -/
def load (vars : Variables) (here : Path) : FilePlan Variables := do
  match ← find here.ancestors with
  | none => return vars
  | some path =>
    let bytes : ByteArray ← Plan.call (Files.Call.read path)
    return addTo vars bytes

/-- The variables of the process, with those of the file added; a file that cannot be read adds
none. -/
def loadOn (vars : Variables) (files : Files) : Variables :=
  let here : Path := ⟨"/" ++ String.intercalate "/" files.here⟩
  match ((load vars here).run Files.perform files).1 with
  | .ok vars => vars
  | .error _ => vars

end Settings.EnvFile

end DeploySync
