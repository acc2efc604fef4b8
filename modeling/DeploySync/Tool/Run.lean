import DeploySync.Bucket.Connect
import DeploySync.Release.Listing
import DeploySync.Sync.CommonVars
import DeploySync.Sync.Export
import DeploySync.Sync.Metadata
import DeploySync.Tool.Arguments

/-!
# Running the tools

Each tool is a plan over what a process can ask for. A tool without anything to do asks for nothing,
and the metadata tool refuses an empty workspace before it asks for anything.

## Main definitions

* `Tool.Call`, `Tool.Call.Answer`, `Tool.Plan` — what a tool asks for
* `Tool.CommonVarsArguments.plan`, `Tool.SetEnvVarsArguments.plan`,
  `Tool.DownloadUrlArguments.plan`, `Tool.MetadataArguments.plan` — what the tools do
* `Tool.plan` — what a tool does for the flags of a command line
* `Tool.Report`, `Tool.run` — what the process of a tool leaves behind
-/

namespace DeploySync.Tool

/-- What a tool asks for. -/
inductive Call where
  /-- The variables of the process, with those of the file of variables. -/
  | environment
  | workingDirectory
  | executable
  /-- A call of a synchronization with a store and a provisioning tool. -/
  | sync (store : Store) (provisioningTool : String) (c : Sync.Call)
  | page (url : String)
  | print (line : String)

/-- The type of the answer to a call. -/
def Call.Answer : Call → Type
  | .environment => Settings.Variables
  | .workingDirectory => Path
  | .executable => Path
  | .sync _ _ c => c.Answer
  | .page _ => String
  | .print _ => Unit

/-- What a tool does. -/
abbrev Plan := DeploySync.Plan Call Call.Answer

/-- Reads the settings. -/
def readSettings : Plan Settings := do
  let vars ← Plan.call Call.environment
  Plan.ofExcept (Settings.load vars)

/-- Runs a synchronization with a store. -/
def synchronize {α : Type} (store : Store) (c : Settings) (p : Sync.Plan α) : Plan α :=
  p.through fun q => DeploySync.Plan.call (Call.sync store c.provisioningTool q)

/-- Uploads or downloads the common settings. -/
def CommonVarsArguments.plan (a : CommonVarsArguments) : Plan Unit :=
  if ! a.upload && ! a.download then return ()
  else do
    let c ← readSettings
    let store ← Plan.ofExcept (Store.connect c)
    let executable ← Plan.call Call.executable
    let sync ← Plan.ofExcept (CommonVarsSync.ofSettings c executable)
    if a.upload then synchronize store c sync.upload
    if a.download then
      let _ ← synchronize store c sync.download
      return ()

/-- Exports the settings of a workspace to the working directory. -/
def SetEnvVarsArguments.plan (a : SetEnvVarsArguments) : Plan Unit :=
  match a.workspace? with
  | none => return ()
  | some workspace => do
    let c ← readSettings
    let here : Path ← Plan.call Call.workingDirectory
    let store ← Plan.ofExcept (Store.connect c)
    let exporter : ExportSync := ⟨store.bucketName, here.join Properties.fileName⟩
    let _ ← synchronize store c (exporter.run workspace)
    return ()

/-- The settings with what a command line says instead. -/
def DownloadUrlArguments.apply (a : DownloadUrlArguments) (c : Settings) : Settings :=
  { c with
    distro := a.distro <|> c.distro, arch := a.arch <|> c.arch, version := a.version <|> c.version }

/-- Prints the URL of an archive. -/
def DownloadUrlArguments.plan (a : DownloadUrlArguments) : Plan Unit := do
  let c := a.apply (← readSettings)
  let query ← Plan.ofExcept (Release.Query.ofSettings c)
  let url ← (Release.Site.ofSettings c).resolve query |>.through
    fun url => DeploySync.Plan.call (Call.page url)
  Plan.call (Call.print url)

/-- Does with the metadata what is to be done. -/
def MetadataAction.plan : MetadataAction → MetadataSync → Sync.Plan Unit
  | .upload, sync => do
    let _ ← sync.upload
    return ()
  | .download workspace, sync => do
    let _ ← sync.download workspace
    return ()
  | .setEnv workspace, sync => do
    let _ ← sync.setEnv workspace
    return ()

/-- Publishes, downloads or exports metadata. -/
def MetadataArguments.plan (a : MetadataArguments) : Plan Unit := do
  match ← Plan.ofExcept a.action with
  | none => return ()
  | some action => do
    let c ← readSettings
    let store ← Plan.ofExcept (Store.connect c)
    let executable ← Plan.call Call.executable
    let sync ← Plan.ofExcept (MetadataSync.ofSettings c executable)
    synchronize store c (action.plan sync)

/-- What a tool does for the flags of a command line. -/
def plan (t : Tool) (g : Cli.Given) : Plan Unit :=
  match t with
  | .commonVars => (CommonVarsArguments.ofGiven g).plan
  | .setEnvVars => (SetEnvVarsArguments.ofGiven g).plan
  | .downloadUrl => (DownloadUrlArguments.ofGiven g).plan
  | .metadata => (MetadataArguments.ofGiven g).plan

/-- What the process of a tool leaves behind, but for what it printed on the way. -/
structure Report where
  exitCode : Nat := 0
  /-- What is explained at the end. -/
  help : String := ""
  error? : Option Error := none
  fault? : Option Cli.Fault := none
  deriving DecidableEq, Repr

/-- The exit status for a command line that is refused. -/
def refusedCode : Nat := 2

/-- The report of a tool's result. -/
def Report.ofResult : Except Error Unit → Report
  | .ok () => {}
  | .error e => { exitCode := e.exitCode, error? := some e }

/-- The report of a command line that is not run. -/
def Report.ofFault (t : Tool) : Cli.Fault → Report
  | .help => { help := t.command.help }
  | fault => { exitCode := refusedCode, fault? := some fault }

/-- Runs a tool on a command line. -/
def run {σ : Type} (h : Plan.Handler Call Call.Answer σ) (t : Tool) (arguments : List String)
    (s : σ) : Report × σ :=
  match t.command.parse arguments with
  | .ok g =>
    let (result, s) := (t.plan g).run h s
    (.ofResult result, s)
  | .error fault => (.ofFault t fault, s)

end DeploySync.Tool
