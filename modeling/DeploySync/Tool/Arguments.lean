import DeploySync.Cli.Command
import DeploySync.Error

/-!
# The four tools and their arguments

Every tool does nothing if it gets no flag.

## Main definitions

* `Tool` — the tools
* `Tool.command` — what their command lines may hold
* `Tool.CommonVarsArguments`, `Tool.SetEnvVarsArguments`, `Tool.DownloadUrlArguments`,
  `Tool.MetadataArguments` — what the tools are given
* `Tool.MetadataArguments.action` — what the metadata tool is to do
-/

namespace DeploySync

/-- The tools. -/
inductive Tool where
  | commonVars
  | setEnvVars
  | downloadUrl
  | metadata
  deriving DecidableEq, Repr

namespace Tool

/-- The tools in order. -/
def all : List Tool := [.commonVars, .setEnvVars, .downloadUrl, .metadata]

/-- What the command line of a tool may hold. -/
def command : Tool → Cli.Command
  | .commonVars =>
    { name := "common-vars"
      about := "Sync the environment's common_vars.yaml with the bucket"
      flags :=
        [{ name := "upload", help := "Upload common-vars" },
          { name := "download", help := "Download common-vars" }]
      exclusive := ["upload", "download"] }
  | .setEnvVars =>
    { name := "set-env-vars"
      about := "Export component settings of a workspace to env.properties"
      flags :=
        [{ name := "workspace", value? := some "NAME",
           help := "Workspace whose asdb and abs common vars are read" }] }
  | .downloadUrl =>
    { name := "asdb-download-url"
      about := "Print the server archive URL for a distro and architecture"
      flags :=
        [{ name := "distro", value? := some "DISTRO",
            help := "Distro substring, overrides DISTRO" },
          { name := "arch", value? := some "ARCH",
            help := "Architecture substring, overrides ARCH" },
          { name := "asdb-version", value? := some "VERSION",
            help := "Server version, overrides ASDB_VERSION" }] }
  | .metadata =>
    { name := "metadata"
      about := "Publish, download or export workspace metadata"
      flags :=
        [{ name := "upload", help := "Upload metadata" },
          { name := "download", value? := some "WORKSPACE",
            help := "Download common vars and metadata of a workspace" },
          { name := "set-env", value? := some "WORKSPACE",
            help := "Write env.properties for a workspace" }]
      exclusive := ["upload", "download", "set-env"] }

/-- The name of a tool. -/
def name (t : Tool) : String := t.command.name

/-- The tool of a name. -/
def ofName? (name : String) : Option Tool := all.find? (·.name == name)

/-- What the tool for the common settings is given. -/
structure CommonVarsArguments where
  upload : Bool
  download : Bool
  deriving DecidableEq, Repr

/-- What the flags of a command line say. -/
def CommonVarsArguments.ofGiven (g : Cli.Given) : CommonVarsArguments :=
  ⟨g.has "upload", g.has "download"⟩

/-- What the tool for exports is given. -/
structure SetEnvVarsArguments where
  given : Option String
  deriving DecidableEq, Repr

namespace SetEnvVarsArguments

/-- What the flags of a command line say. -/
def ofGiven (g : Cli.Given) : SetEnvVarsArguments := ⟨g.value? "workspace"⟩

/-- The workspace to export; an empty one counts as none. -/
def workspace? (a : SetEnvVarsArguments) : Option String := a.given.filter (! ·.isEmpty)

end SetEnvVarsArguments

/-- What the tool for download URLs is given. -/
structure DownloadUrlArguments where
  distro : Option String
  arch : Option String
  version : Option String
  deriving DecidableEq, Repr

/-- What the flags of a command line say. -/
def DownloadUrlArguments.ofGiven (g : Cli.Given) : DownloadUrlArguments :=
  ⟨g.value? "distro", g.value? "arch", g.value? "asdb-version"⟩

/-- What the metadata tool is given. -/
structure MetadataArguments where
  upload : Bool
  download : Option String
  setEnv : Option String
  deriving DecidableEq, Repr

/-- What the metadata tool is to do. -/
inductive MetadataAction where
  | upload
  | download (workspace : String)
  | setEnv (workspace : String)
  deriving DecidableEq, Repr

namespace MetadataArguments

/-- What the flags of a command line say. -/
def ofGiven (g : Cli.Given) : MetadataArguments :=
  ⟨g.has "upload", g.value? "download", g.value? "set-env"⟩

private def filled (workspace : Option String) : Option String := workspace.filter (! ·.isEmpty)

/-- What the tool is to do, if anything. A workspace that is given but empty is refused, so that a
shell that passes an unset variable does not go unnoticed. -/
def action (a : MetadataArguments) : Except Error (Option MetadataAction) :=
  if a.upload then .ok (some .upload)
  else
    match filled a.download, filled a.setEnv with
    | some workspace, _ => .ok (some (.download workspace))
    | none, some workspace => .ok (some (.setEnv workspace))
    | none, none =>
      if a.download.isSome = a.setEnv.isSome then .ok none
      else .error (.validation .workspaceNotSet)

private theorem filled_none : filled none = none := rfl

private theorem filled_some {workspace : String} (hfilled : workspace ≠ "") :
    filled (some workspace) = some workspace := by
  simp [filled, Option.filter, hfilled]

theorem action_nothing : action ⟨false, none, none⟩ = .ok none := rfl

theorem action_upload (download setEnv : Option String) :
    action ⟨true, download, setEnv⟩ = .ok (some .upload) := rfl

theorem action_download (workspace : String) :
    action ⟨false, some workspace, none⟩ =
      if workspace = "" then .error (.validation .workspaceNotSet)
      else .ok (some (.download workspace)) := by
  by_cases hempty : workspace = ""
  · rw [if_pos hempty, hempty]
    rfl
  · rw [if_neg hempty]
    simp [action, filled_some hempty, filled_none]

theorem action_setEnv (workspace : String) :
    action ⟨false, none, some workspace⟩ =
      if workspace = "" then .error (.validation .workspaceNotSet)
      else .ok (some (.setEnv workspace)) := by
  by_cases hempty : workspace = ""
  · rw [if_pos hempty, hempty]
    rfl
  · rw [if_neg hempty]
    simp [action, filled_some hempty, filled_none]

end MetadataArguments

end Tool

end DeploySync
