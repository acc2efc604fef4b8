import DeploySync.Http.Exchange
import DeploySync.Json.Error
import DeploySync.OsError
import DeploySync.Path
import DeploySync.Settings.Error
import DeploySync.Text.Blank
import DeploySync.Yaml.Error

/-!
# Errors

Every failure is one of twelve kinds, each with its exit status; within a kind the cause is data,
and the wording is determined by it.

## Main definitions

* `Invalid`, `Missing`, `HttpCause`, `StorageCause`, `ProcessCause` — the causes within a kind
* `Error` — the kinds
* `Error.message`, `Error.exitCode` — the wording and the exit status
-/

namespace DeploySync

/-- A malformed invocation, or an input that is missing. -/
inductive Invalid where
  | blankKeySegment
  | emptyKey
  /-- The key has a segment `.` or `..`. -/
  | relativeKey (key : String)
  | workspaceNotSet
  | variableNotSet (name : String)
  | localRootNotSet
  | noEnvDir (executable : Path)
  | unnamedEnvDir (dir : Path)
  | badEndpoint (text : String) (fault : Url.Fault)
  | baselessEndpoint (url : String)
  | badUrl (text : String) (fault : Url.Fault)
  | schemeNotAllowed (scheme : String)
  | other (text : String)
  deriving DecidableEq, Repr

/-- The wording of an invalid input. -/
def Invalid.message : Invalid → String
  | .blankKeySegment => "Blob key segment cannot be empty"
  | .emptyKey => "Blob key cannot be empty"
  | .relativeKey key => s!"Blob key '{key}' cannot contain relative segments"
  | .workspaceNotSet => "Workspace is not set"
  | .variableNotSet name => s!"{name} is not set"
  | .localRootNotSet => "LOCAL_BUCKET_ROOT must be set for the local backend"
  | .noEnvDir exe => s!"Cannot derive environment directory from {exe.quoted}"
  | .unnamedEnvDir dir => s!"Environment directory {dir.quoted} has no usable name"
  | .badEndpoint text fault => s!"Invalid GCS endpoint '{text}': {fault.message}"
  | .baselessEndpoint url => s!"GCS endpoint '{url}' cannot be a base URL"
  | .badUrl text fault => s!"Invalid URL '{text}': {fault.message}"
  | .schemeNotAllowed scheme =>
    s!"URL scheme '{scheme}' not allowed. Only http and https are supported."
  | .other text => text

/-- Something that is not in the bucket. -/
inductive Missing where
  | blob (key bucket : String)
  /-- A document that has to exist. -/
  | document (label bucket key : String)
  | other (text : String)
  deriving DecidableEq, Repr

/-- The wording of something missing. -/
def Missing.message : Missing → String
  | .blob key bucket => s!"Blob '{key}' does not exist in bucket '{bucket}'"
  | .document label bucket key => s!"{label} does not exist on the bucket '{bucket}' (key '{key}')"
  | .other text => text

/-- A failed request, or an answer that reports no success. -/
inductive HttpCause where
  | failure (failure : Http.Failure)
  | fetch (url : String) (failure : Http.Failure)
  | status (url : String) (status : Http.Status)
  | chunk (failure : Http.Failure)
  | tooLarge (url : String) (limit : Nat)
  | other (text : String)
  deriving DecidableEq, Repr

/-- The wording of a failed request. -/
def HttpCause.message : HttpCause → String
  | .failure f => f.message
  | .fetch url f => s!"Failed to fetch {url}: {f.message}"
  | .status url code => s!"Failed to fetch {url}: status {code.text}"
  | .chunk f => s!"Failed to read response chunk: {f.message}"
  | .tooLarge url limit => s!"Listing {url} exceeds size limit of {limit} bytes"
  | .other text => text

/-- A request that the object store refused. -/
inductive StorageCause where
  | noBucket (bucket : String)
  | bucketExists (bucket : String)
  /-- The store answered with a status that is no success, and a text. -/
  | status (what : String) (status : Http.Status) (body : String)
  | noRewriteToken (key : String)
  /-- A rewrite took more rounds than it may. -/
  | endlessRewrite (key : String)
  | other (text : String)
  deriving DecidableEq, Repr

/-- The wording of a refused request. -/
def StorageCause.message : StorageCause → String
  | .noBucket bucket => s!"Bucket '{bucket}' does not exist"
  | .bucketExists bucket => s!"Bucket '{bucket}' already exists"
  | .status what code body => s!"{what} failed with status {code.text}: {Text.trim body}"
  | .noRewriteToken key =>
    s!"Storage class update of '{key}' is incomplete but returned no rewrite token"
  | .endlessRewrite key => s!"Storage class update of '{key}' does not end"
  | .other text => text

/-- How a process ended. -/
inductive ExitStatus where
  | code (code : Nat)
  | signal (signal : Nat)
  deriving DecidableEq, Repr

/-- The usual names of signals. -/
def signalName? (n : Nat) : Option String :=
  match n with
  | 1 => some "SIGHUP"
  | 2 => some "SIGINT"
  | 3 => some "SIGQUIT"
  | 4 => some "SIGILL"
  | 5 => some "SIGTRAP"
  | 6 => some "SIGABRT"
  | 7 => some "SIGBUS"
  | 8 => some "SIGFPE"
  | 9 => some "SIGKILL"
  | 10 => some "SIGUSR1"
  | 11 => some "SIGSEGV"
  | 12 => some "SIGUSR2"
  | 13 => some "SIGPIPE"
  | 14 => some "SIGALRM"
  | 15 => some "SIGTERM"
  | 16 => some "SIGSTKFLT"
  | 17 => some "SIGCHLD"
  | 18 => some "SIGCONT"
  | 19 => some "SIGSTOP"
  | 20 => some "SIGTSTP"
  | 21 => some "SIGTTIN"
  | 22 => some "SIGTTOU"
  | 23 => some "SIGURG"
  | 24 => some "SIGXCPU"
  | 25 => some "SIGXFSZ"
  | 26 => some "SIGVTALRM"
  | 27 => some "SIGPROF"
  | 28 => some "SIGWINCH"
  | 29 => some "SIGIO"
  | 30 => some "SIGPWR"
  | 31 => some "SIGSYS"
  | _ => none

/-- The wording of the end of a process. -/
def ExitStatus.message : ExitStatus → String
  | .code n => s!"exit status: {n}"
  | .signal n =>
    match signalName? n with
    | some name => s!"signal: {n} ({name})"
    | none => s!"signal: {n}"

/-- Why a query to the provisioning tool failed. -/
inductive ProcessCause where
  | notStarted (binary : String) (fault : StartFault)
  | failed (binary output : String) (moduleDir : Path) (status : ExitStatus) (stderr : String)
  | notText (binary output : String) (fault : Text.Utf8.Fault)
  | other (text : String)
  deriving DecidableEq, Repr

/-- The wording of a failed query. -/
def ProcessCause.message : ProcessCause → String
  | .notStarted binary e => s!"Failed to run {binary}: {e.message}"
  | .failed binary output dir status stderr =>
    s!"{binary} output {output} in {dir.quoted} exited with {status.message}: {Text.trim stderr}"
  | .notText binary output fault => s!"{binary} output {output} is not UTF-8: {fault.message}"
  | .other text => text

/-- A failure, by its kind. -/
inductive Error where
  | validation (cause : Invalid)
  | notFound (cause : Missing)
  | noMatchingArtifact (distro arch version : String)
  /-- A document lacks a field; the text names its path. -/
  | missingField (path : String)
  | yaml (cause : Yaml.Error)
  | json (cause : Json.Error)
  | http (cause : HttpCause)
  | storage (cause : StorageCause)
  | process (cause : ProcessCause)
  | localFile (path : Path) (cause : FileFault)
  | io (cause : OsError)
  | settings (cause : Settings.Error)
  deriving DecidableEq, Repr

namespace Error

/-- The wording of a failure. -/
def message : Error → String
  | .validation c => s!"Validation error: {c.message}"
  | .notFound c => s!"Not found: {c.message}"
  | .noMatchingArtifact distro arch version =>
    s!"No matching artifact for distro '{distro}' and arch '{arch}' in version {version}"
  | .missingField path => s!"Missing field '{path}'"
  | .yaml e => s!"YAML error: {e.message}"
  | .json e => s!"JSON error: {e.message}"
  | .http c => s!"HTTP error: {c.message}"
  | .storage c => s!"Storage error: {c.message}"
  | .process c => s!"Process error: {c.message}"
  | .localFile path c => s!"Failed to access {path.quoted}: {c.message}"
  | .io e => s!"I/O error: {e.message}"
  | .settings e => s!"Configuration error: {e.message}"

/-- The exit status of a failure. -/
def exitCode : Error → Nat
  | .validation _ => 64
  | .noMatchingArtifact .. => 65
  | .missingField _ => 65
  | .yaml _ => 65
  | .json _ => 65
  | .notFound _ => 66
  | .http _ => 69
  | .storage _ => 69
  | .process _ => 70
  | .localFile .. => 74
  | .io _ => 74
  | .settings _ => 78

end Error

end DeploySync
