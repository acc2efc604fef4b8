import DeploySync.StorageClass

/-!
# The seventeen settings

Settings are in four groups. Each has a field in its group, a variable of the process
environment under which the deployment scripts know it, and most have a default.

## Main definitions

* `Settings.Backend` — the kinds of store that can hold the bucket
* `Settings.Group`, `Settings.Setting` — the groups and the settings
* `Settings.Setting.key`, `Settings.Setting.variableName`, `Settings.Setting.default?` — where a
  setting stands, and what it is if nothing is said
-/

namespace DeploySync.Settings

/-- The kinds of store that can hold the bucket: an object store, or a directory. -/
inductive Backend where
  | objects
  | directory
  deriving DecidableEq, Repr, Inhabited

namespace Backend

/-- All kinds of store. -/
def all : List Backend := [.objects, .directory]

/-- The name of a kind. -/
def name : Backend → String
  | .objects => "gcs"
  | .directory => "local"

/-- The names of all kinds. -/
def names : List String := all.map name

/-- The kind of a name. -/
def ofName? (s : String) : Option Backend := all.find? (·.name == s)

/-- The kind of a name in any letter case. -/
def ofAnyCase? (s : String) : Option Backend :=
  all.find? fun b => Text.eqIgnoringCase b.name s

@[simp] theorem ofName?_name (b : Backend) : ofName? b.name = some b := by
  cases b <;> decide

end Backend

/-- The groups of settings. -/
inductive Group where
  | storage
  | artifacts
  | paths
  | provisioning
  deriving DecidableEq, Repr

namespace Group

/-- All groups. -/
def all : List Group := [.storage, .artifacts, .paths, .provisioning]

/-- The name of a group. -/
def name : Group → String
  | .storage => "storage"
  | .artifacts => "artifacts"
  | .paths => "paths"
  | .provisioning => "provisioning"

/-- The name by which errors call the type of a group. -/
def typeName : Group → String
  | .storage => "StorageConfig"
  | .artifacts => "ArtifactConfig"
  | .paths => "PathsConfig"
  | .provisioning => "ProvisioningConfig"

end Group

/-- The settings. -/
inductive Setting where
  | backend
  | bucket
  | project
  | region
  | zone
  | storageClass
  | endpoint
  | accessToken
  | directoryRoot
  | listingBase
  | suffix
  | distro
  | arch
  | version
  | envDir
  | commonVars
  | provisioningTool
  deriving DecidableEq, Repr

namespace Setting

/-- All settings, group by group. -/
def all : List Setting :=
  [.backend, .bucket, .project, .region, .zone, .storageClass, .endpoint, .accessToken,
    .directoryRoot, .listingBase, .suffix, .distro, .arch, .version, .envDir, .commonVars,
    .provisioningTool]

/-- The group of a setting. -/
def group : Setting → Group
  | .backend => .storage
  | .bucket => .storage
  | .project => .storage
  | .region => .storage
  | .zone => .storage
  | .storageClass => .storage
  | .endpoint => .storage
  | .accessToken => .storage
  | .directoryRoot => .storage
  | .listingBase => .artifacts
  | .suffix => .artifacts
  | .distro => .artifacts
  | .arch => .artifacts
  | .version => .artifacts
  | .envDir => .paths
  | .commonVars => .paths
  | .provisioningTool => .provisioning

/-- The name of a setting in its group. -/
def field : Setting → String
  | .backend => "backend"
  | .bucket => "bucket_name"
  | .project => "project_id"
  | .region => "region"
  | .zone => "zone"
  | .storageClass => "storage_class"
  | .endpoint => "gcs_endpoint"
  | .accessToken => "gcs_access_token"
  | .directoryRoot => "local_root"
  | .listingBase => "base_url"
  | .suffix => "suffix"
  | .distro => "distro"
  | .arch => "arch"
  | .version => "version"
  | .envDir => "env_dir"
  | .commonVars => "common_vars"
  | .provisioningTool => "terragrunt_bin"

/-- Group and field of a setting. -/
def path (s : Setting) : List String := [s.group.name, s.field]

/-- Group and field of a setting with a dot between them. -/
def key (s : Setting) : String := s.group.name ++ "." ++ s.field

/-- The variable under which the deployment scripts know a setting. -/
def variableName : Setting → String
  | .backend => "STORAGE_BACKEND"
  | .bucket => "BUCKET_NAME"
  | .project => "PROJECT_ID"
  | .region => "REGION"
  | .zone => "ZONE"
  | .storageClass => "STORAGE_CLASS"
  | .endpoint => "GCS_ENDPOINT"
  | .accessToken => "GCS_ACCESS_TOKEN"
  | .directoryRoot => "LOCAL_BUCKET_ROOT"
  | .listingBase => "ARTIFACT_BASE_URL"
  | .suffix => "ARTIFACT_SUFFIX"
  | .distro => "DISTRO"
  | .arch => "ARCH"
  | .version => "ASDB_VERSION"
  | .envDir => "ENV_DIR"
  | .commonVars => "COMMON_VARS"
  | .provisioningTool => "TERRAGRUNT_BIN"

/-- What a setting is if nothing is said. -/
def default? : Setting → Option String
  | .backend => some "gcs"
  | .bucket => some "ecosys-workspace-vars"
  | .project => some "ecosystem-connectors-data"
  | .region => some "me-west1"
  | .zone => some "me-west1-a"
  | .storageClass => some "STANDARD"
  | .endpoint => some "https://storage.googleapis.com"
  | .accessToken => none
  | .directoryRoot => none
  | .listingBase => some "https://download.aerospike.com/artifacts/aerospike-server-enterprise"
  | .suffix => some ".tgz"
  | .distro => none
  | .arch => none
  | .version => none
  | .envDir => none
  | .commonVars => none
  | .provisioningTool => some "terragrunt"

end Setting

end DeploySync.Settings
