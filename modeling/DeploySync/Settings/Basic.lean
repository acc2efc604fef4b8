import DeploySync.Json.Value
import DeploySync.Settings.Layers

/-!
# Settings

## Main definitions

* `Settings` — the value of each setting
* `Settings.text?` — a setting as a text
* `Settings.ofLayers`, `Settings.load`, `Settings.ofOwnVariables` — the settings of an environment
* `Settings.display` — all settings but the access token, as JSON
-/

namespace DeploySync

/-- The settings. -/
structure Settings where
  backend : Settings.Backend
  bucket : String
  project : String
  region : String
  zone : String
  storageClass : StorageClass
  endpoint : String
  accessToken : Option String
  directoryRoot : Option Path
  listingBase : String
  suffix : String
  distro : Option String
  arch : Option String
  version : Option String
  envDir : Option Path
  commonVars : Option Path
  provisioningTool : String
  deriving DecidableEq, Repr

namespace Settings

/-- A setting as a text. -/
def text? (c : Settings) : Setting → Option String
  | .backend => some c.backend.name
  | .bucket => some c.bucket
  | .project => some c.project
  | .region => some c.region
  | .zone => some c.zone
  | .storageClass => some c.storageClass.name
  | .endpoint => some c.endpoint
  | .accessToken => c.accessToken
  | .directoryRoot => c.directoryRoot.map (·.text)
  | .listingBase => some c.listingBase
  | .suffix => some c.suffix
  | .distro => c.distro
  | .arch => c.arch
  | .version => c.version
  | .envDir => c.envDir.map (·.text)
  | .commonVars => c.commonVars.map (·.text)
  | .provisioningTool => some c.provisioningTool

/-- The settings that layers amount to. -/
def ofLayers (l : Layers) : Except Error Settings := do
  match Group.all.filterMap l.flatFault? with
  | e :: _ => throw e
  | [] => pure ()
  return {
    backend := ← l.name .backend "StorageBackend" Backend.ofName?
    bucket := ← l.text .bucket
    project := ← l.text .project
    region := ← l.text .region
    zone := ← l.text .zone
    storageClass := ← l.name .storageClass "StorageClass" StorageClass.ofName?
    endpoint := ← l.text .endpoint
    accessToken := ← l.text? .accessToken
    directoryRoot := (← l.text? .directoryRoot).map Path.mk
    listingBase := ← l.text .listingBase
    suffix := ← l.text .suffix
    distro := ← l.text? .distro
    arch := ← l.text? .arch
    version := ← l.text? .version
    envDir := (← l.text? .envDir).map Path.mk
    commonVars := (← l.text? .commonVars).map Path.mk
    provisioningTool := ← l.text .provisioningTool }

/-- The settings of an environment. -/
def load (vars : Variables) : Except DeploySync.Error Settings :=
  match ofLayers (layersOf vars) with
  | .ok c => .ok c
  | .error e => .error (.settings e)

/-- The settings of an environment in which only the settings' own variables count. -/
def ofOwnVariables (vars : Variables) : Except DeploySync.Error Settings :=
  match ofLayers (ownLayers vars) with
  | .ok c => .ok c
  | .error e => .error (.settings e)

/-- The settings of a group, without the access token, as members of an object. -/
def groupMembers (c : Settings) (s : Group) : List (String × Json.Value) :=
  (Setting.all.filter fun x => x.group == s && x != .accessToken).map fun x =>
    (x.field, Json.Value.ofText? (c.text? x))

/-- The settings without the access token. -/
def toJson (c : Settings) : Json.Value :=
  .object (Group.all.map fun s => (s.name, .object (c.groupMembers s)))

/-- The settings without the access token, as they are shown. -/
def display (c : Settings) : String := String.ofList (c.toJson.pretty 0)

end Settings

end DeploySync
