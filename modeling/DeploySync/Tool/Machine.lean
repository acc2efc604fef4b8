import DeploySync.Provisioning
import DeploySync.Settings.Environment
import DeploySync.Tool.Run

/-!
# A machine in memory

Tools run on a machine whose files, variables, network and provisioning tool are values.

## Main definitions

* `Machine` — the machine, with what its processes have started and printed
* `Machine.perform` — answers what tools ask for
* `Machine.run` — runs a tool
-/

namespace DeploySync

/-- A machine in memory. -/
structure Machine where
  surroundings : Store.Surroundings
  environment : Settings.Variables
  /-- The path of the tool that runs. -/
  executable : Path
  /-- The ends of the provisioning tool, by the output that it is asked for. -/
  outcomes : List (String × Provisioning.Outcome) := []
  /-- The arguments with which the provisioning tool was started, the last ones first. -/
  started : List (List String) := []
  /-- The lines that were printed, the last one first. -/
  printed : List String := []

namespace Machine

/-- The files. -/
def files (m : Machine) : Files := m.surroundings.files

/-- The machine with other files. -/
def withFiles (m : Machine) (files : Files) : Machine :=
  { m with surroundings := { m.surroundings with files := files } }

/-- The working directory. -/
def here (m : Machine) : Path := ⟨"/" ++ String.intercalate "/" m.files.here⟩

/-- Starts the provisioning tool for an output. -/
def startTool (m : Machine) (binary : String) (moduleDir : Path) (name : String) :
    Except Error String × Machine :=
  let arguments := Provisioning.arguments moduleDir name
  let started := Provisioning.start m.files m.outcomes binary arguments
  (Provisioning.output binary moduleDir name started,
    if started.isOk then { m with started := arguments :: m.started } else m)

/-- Answers a call of a synchronization. -/
def performSync (store : Store) (provisioningTool : String) :
    Plan.Handler Sync.Call Sync.Call.Answer Machine
  | .bucket c, m =>
    let (a, surroundings) := store.perform c m.surroundings
    (a, { m with surroundings := surroundings })
  | .output dir name, m => m.startTool provisioningTool dir name
  | .readFile p, m => (Files.failed p (m.files.read p), m)
  | .writeFile p bytes, m =>
    let (a, files) := Files.perform (.write p bytes) m.files
    (a, m.withFiles files)

/-- Answers what a tool asks for. -/
def perform : Plan.Handler Tool.Call Tool.Call.Answer Machine
  | .environment, m => (.ok (Settings.EnvFile.loadOn m.environment m.files), m)
  | .workingDirectory, m => (.ok m.here, m)
  | .executable, m => (.ok m.executable, m)
  | .sync store provisioningTool c, m => performSync store provisioningTool c m
  | .page url, m =>
    let (a, network) := (Http.Page.fetch url).run Http.scripted.handler m.surroundings.network
    (a, { m with surroundings := { m.surroundings with network := network } })
  | .print line, m => (.ok (), { m with printed := line :: m.printed })

/-- Runs a tool on a command line. -/
def run (m : Machine) (t : Tool) (arguments : List String) : Tool.Report × Machine :=
  t.run perform arguments m

end Machine

end DeploySync
