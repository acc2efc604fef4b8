import DeploySync.Provisioning
import DeploySync.Settings.Environment
import DeploySync.Tool.Run

/-!
# The command line

The first argument names the tool, unless the program is installed under the name of one. Files and
variables are those of the process. It has no network and starts no programs, so that requests and
the provisioning tool fail as they do on a machine without them.
-/

namespace DeploySync.Main

/-! ### Files -/

/-- The number of an error of the system. -/
def errorNumber : IO.Error → Nat
  | .alreadyExists _ code _ => code.toNat
  | .otherError code _ => code.toNat
  | .resourceBusy code _ => code.toNat
  | .resourceVanished code _ => code.toNat
  | .unsupportedOperation code _ => code.toNat
  | .hardwareFault code _ => code.toNat
  | .unsatisfiedConstraints code _ => code.toNat
  | .illegalOperation code _ => code.toNat
  | .protocolError code _ => code.toNat
  | .timeExpired code _ => code.toNat
  | .interrupted _ code _ => code.toNat
  | .noFileOrDirectory _ code _ => code.toNat
  | .invalidArgument _ code _ => code.toNat
  | .permissionDenied _ code _ => code.toNat
  | .resourceExhausted _ code _ => code.toNat
  | .inappropriateType _ code _ => code.toNat
  | .noSuchThing _ code _ => code.toNat
  | .unexpectedEof => 0
  | .userError _ => 0

/-- The result of an action on a file. -/
def onFile {α : Type} (p : Path) (action : IO α) : IO (Except Error α) := do
  match ← action.toBaseIO with
  | .ok a => return .ok a
  | .error e => return .error (.localFile p (.os ⟨errorNumber e⟩))

/-- Reads what a path names. -/
def contents (p : Path) : IO (Except Error ByteArray) := onFile p (IO.FS.readBinFile p.text)

/-- Reading failed because the path names a directory. -/
def isDirectory : Except Error ByteArray → Bool
  | .error (.localFile _ (.os e)) => e = .isADirectory
  | _ => false

/-- Creates one directory; one that is there already is left as it is. -/
def createDirectory (p : Path) : IO (Except OsError Unit) := do
  match ← (IO.FS.createDir p.text).toBaseIO with
  | .ok () => return .ok ()
  | .error e =>
    if isDirectory (← contents p) then return .ok () else return .error ⟨errorNumber e⟩

/-- Creates a directory with those above it that are missing; the names come last one first. -/
def createUpwards (start : String) : List String → IO (Except OsError Unit)
  | [] => return .ok ()
  | name :: above => do
    let p : Path := ⟨start ++ String.intercalate "/" (name :: above).reverse⟩
    match ← createDirectory p with
    | .ok () => return .ok ()
    | .error e =>
      if e = .notFound then
        match ← createUpwards start above with
        | .ok () => createDirectory p
        | .error e => return .error e
      else return .error e

/-- Answers calls on files. -/
def onFiles : (c : Files.Call) → IO (Except Error c.Answer)
  | .isDirectory p => return .ok (isDirectory (← contents p))
  | .isFile p => return .ok (← contents p).isOk
  | .holds p => do
    let found ← contents p
    return .ok (found.isOk || isDirectory found)
  | .read p => contents p
  | .write p bytes => onFile p (IO.FS.writeBinFile p.text bytes)
  | .createDirectories p => do
    match ← createUpwards (if p.isAbsolute then "/" else "") p.names.reverse with
    | .ok () => return .ok ()
    | .error e => return .error (.localFile p (.os e))

/-! ### The process -/

/-- A network that reaches nothing. -/
def onNetwork (r : Http.Request) : IO (Except Error r.Answer) :=
  return .ok (.error (.sending r.url.text))

/-- The variables of the process. -/
def environment : IO Settings.Variables := do
  match ← (IO.FS.readBinFile "/proc/self/environ").toBaseIO with
  | .error _ => return []
  | .ok bytes =>
    let entries := Text.split '\x00' (Bytes.lossyText bytes).toList
    return entries.filterMap fun entry =>
      (Text.cut? '=' entry).map fun (name, value) => (String.ofList name, String.ofList value)

/-- The working directory. -/
def workingDirectory : IO Path := return ⟨toString (← IO.currentDir)⟩

/-- The path of the program. -/
def executable : IO Path := return ⟨toString (← IO.appPath)⟩

/-- Answers calls of a synchronization. -/
def onSync (store : Store) (provisioningTool : String) :
    (c : Sync.Call) → IO (Except Error c.Answer)
  | .bucket c =>
    match store with
    | .directory b => (b.plan c).perform onFiles
    | .objects b => (b.plan 1 c).perform onNetwork
  | .output dir name =>
    return Provisioning.output provisioningTool dir name (.error (.os .notFound))
  | .readFile p => onFiles (.read p)
  | .writeFile p bytes => onFiles (.write p bytes)

/-- Answers what tools ask for. -/
def onTool : (c : Tool.Call) → IO (Except Error c.Answer)
  | .environment => do
    let own ← environment
    match ← (Settings.EnvFile.load own (← workingDirectory)).perform onFiles with
    | .ok vars => return .ok vars
    | .error _ => return .ok own
  | .workingDirectory => return .ok (← workingDirectory)
  | .executable => return .ok (← executable)
  | .sync store provisioningTool c => onSync store provisioningTool c
  | .page url => (Http.Page.fetch url).perform onNetwork
  | .print line => return .ok (← IO.println line)

/-- Reports how a tool ended, and gives the exit status. -/
def finish (r : Tool.Report) : IO UInt32 := do
  IO.print r.help
  if let some e := r.error? then IO.eprintln ("error: " ++ e.message)
  if let some fault := r.fault? then IO.eprintln ("error: " ++ fault.message)
  return UInt32.ofNat r.exitCode

/-- Runs a tool. -/
def runTool (t : Tool) (arguments : List String) : IO UInt32 := do
  match t.command.parse arguments with
  | .ok g => finish (.ofResult (← (t.plan g).perform onTool))
  | .error fault => finish (.ofFault t fault)

/-- Runs the tool under whose name the program is installed, or the one that the first argument
names. -/
def start (arguments : List String) : IO UInt32 := do
  let own := (← executable).fileName?.bind Tool.ofName?
  match own, arguments with
  | some t, _ => runTool t arguments
  | none, name :: rest =>
    match Tool.ofName? name with
    | some t => runTool t rest
    | none => finish (.ofFault .commonVars (.unknown name))
  | none, [] => do
    IO.println (String.intercalate "\n" (Tool.all.map fun t => t.name ++ ": " ++ t.command.about))
    return 0

end DeploySync.Main

/-- The program. -/
def main (arguments : List String) : IO UInt32 := DeploySync.Main.start arguments
