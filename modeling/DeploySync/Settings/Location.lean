import DeploySync.Document
import DeploySync.Settings.Basic

/-!
# The directory of an environment

The tools are installed two levels below the directory of their environment, so that without a
setting the directory follows from where the tool is.

## Main definitions

* `Settings.environmentDir` — the directory of the environment
* `Settings.environmentName` — its name
* `Settings.commonVarsPath` — the file of common settings that is uploaded
-/

namespace DeploySync.Settings

/-- The directory two levels above an executable. -/
def dirAbove (executable : Path) : Except DeploySync.Error Path :=
  match executable.parent?.bind Path.parent? with
  | some dir => .ok dir
  | none => .error (.validation (.noEnvDir executable))

/-- The directory of the environment. -/
def environmentDir (c : Settings) (executable : Path) : Except DeploySync.Error Path :=
  match c.envDir with
  | some dir => .ok dir
  | none => dirAbove executable

/-- The name of the directory of the environment. -/
def environmentName (c : Settings) (executable : Path) : Except DeploySync.Error String :=
  match c.environmentDir executable with
  | .error e => .error e
  | .ok dir =>
    match dir.fileName? with
    | some name => .ok name
    | none => .error (.validation (.unnamedEnvDir dir))

/-- The file of common settings that is uploaded. -/
def commonVarsPath (c : Settings) (executable : Path) : Except DeploySync.Error Path :=
  match c.commonVars with
  | some path => .ok path
  | none => (c.environmentDir executable).map (·.join Document.commonVarsFile)

end DeploySync.Settings
