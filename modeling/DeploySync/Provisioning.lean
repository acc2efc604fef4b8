import DeploySync.Error
import DeploySync.Files.Basic

/-!
# The provisioning tool

The tool prints what it knows of a module: it is started with the directory of the module and the
name of an output, and prints the output as JSON.

## Main definitions

* `Provisioning.arguments` — the arguments of a start
* `Provisioning.Outcome` — what a process leaves behind
* `Provisioning.output` — the printed text, or why there is none
* `Provisioning.start` — the end of a start where only one program is installed
-/

namespace DeploySync.Provisioning

/-- The arguments of a start. -/
def arguments (moduleDir : Path) (name : String) : List String :=
  ["--working-dir", moduleDir.text, "output", "-terragrunt-log-level", "stderr", "-json", name]

/-- What a process leaves behind. -/
structure Outcome where
  status : ExitStatus
  stdout : ByteArray := ByteArray.empty
  stderr : ByteArray := ByteArray.empty

/-- The text that the tool printed, or why there is none. -/
def output (binary : String) (moduleDir : Path) (name : String) :
    Except StartFault Outcome → Except Error String
  | .error e => .error (.process (.notStarted binary e))
  | .ok o =>
    if o.status ≠ .code 0 then
      .error (.process (.failed binary name moduleDir o.status (Bytes.lossyText o.stderr)))
    else
      match Text.Utf8.firstFault? o.stdout.toList with
      | some fault => .error (.process (.notText binary name fault))
      | none => .ok (Bytes.lossyText o.stdout)

/-- The name of the program. -/
def program : String := "terragrunt"

/-- The end of the installed program: it looks up its last argument among prepared outcomes. -/
def prepared (outcomes : List (String × Outcome)) (arguments : List String) : Outcome :=
  match arguments.getLast?.bind fun name => outcomes.lookup name with
  | some o => o
  | none => { status := .code 1, stderr := Bytes.ofText "no such output\n" }

/-- Why a program that is not installed cannot be started: nothing of its name is there, or what is
there is no program. -/
def refusal (files : Files) (binary : String) : OsError :=
  if binary = "." || binary = Files.up then .permissionDenied
  else if ! binary.toList.contains '/' then .notFound
  else
    match files.locate ⟨binary⟩ with
    | .ok _ => .permissionDenied
    | .error (.os e) => e
    | .error _ => .notFound

/-- The end of a start where only one program is installed. -/
def start (files : Files) (outcomes : List (String × Outcome)) (binary : String)
    (arguments : List String) : Except StartFault Outcome :=
  if (binary :: arguments).any fun s => s.toList.contains '\x00' then .error .zeroInArgument
  else if binary = program then .ok (prepared outcomes arguments)
  else .error (.os (refusal files binary))

end DeploySync.Provisioning
