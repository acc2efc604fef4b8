import DeploySync.Metadata
import DeploySync.Properties
import DeploySync.Settings.Location
import DeploySync.Sync.Blob

/-!
# Publishing the metadata of a workspace

The common settings and the metadata of an environment are published under the workspace that the
common settings name, and read back for a workspace.

## Main definitions

* `MetadataSync` — the directory of the environment and the file of its common settings
* `MetadataSync.upload` — publishes both documents
* `MetadataSync.download` — reads both back into the directory
* `MetadataSync.setEnv` — writes the properties of a workspace
-/

namespace DeploySync

/-- The directory of the environment and the file of its common settings. -/
structure MetadataSync where
  target : Sync.Target
  dir : Path
  source : Path
  deriving DecidableEq, Repr

namespace MetadataSync

/-- The synchronization that the settings name. -/
def ofSettings (c : Settings) (executable : Path) : Except Error MetadataSync := do
  let dir ← c.environmentDir executable
  let source ← c.commonVarsPath executable
  return ⟨.ofSettings c, dir, source⟩

/-- The module of the database nodes. -/
def nodesModule (s : MetadataSync) : Path := (s.dir.join "live").join "asdb"

/-- The module of the gateway. -/
def gatewayModule (s : MetadataSync) : Path := ((s.dir.join "live").join "k8s").join "gateway"

/-- The file of properties. -/
def propertiesPath (s : MetadataSync) : Path := s.dir.join Properties.fileName

/-- The output of the node addresses. -/
def nodesOutput : String := "asdb_node_ips"

/-- The output of the gateway address. -/
def gatewayOutput : String := "gateway_ip"

/-- The field of the common settings that names the workspace. -/
def workspaceField : String := "workspace"

/-- Asks the provisioning tool for the addresses. -/
def collect (s : MetadataSync) : Sync.Plan Metadata := do
  let nodesText ← Sync.output s.nodesModule nodesOutput
  let nodes ← Plan.ofExcept (Metadata.parseNodes nodesText)
  let gatewayText ← Sync.output s.gatewayModule gatewayOutput
  return ⟨nodes, Metadata.parseGateway gatewayText⟩

/-- Publishes the common settings and the metadata under the workspace that the common settings
name, and gives that workspace. -/
def upload (s : MetadataSync) : Sync.Plan String := do
  let text ← Sync.readText s.source
  let document ← Plan.ofExcept (Document.parse text)
  let workspace ← Plan.ofExcept (document.property workspaceField)
  let metadata ← s.collect
  let _ ← Sync.ensureBucket s.target
  let commonKey ← Plan.ofExcept (BlobKey.workspaceFile workspace Document.commonVarsFile)
  let commonYaml ← Plan.ofExcept document.toYaml
  Sync.uploadBlob commonKey commonYaml s.target.storageClass
  let metadataKey ← Plan.ofExcept (BlobKey.workspaceFile workspace Metadata.fileName)
  let metadataYaml ← Plan.ofExcept metadata.toYaml
  Sync.uploadBlob metadataKey metadataYaml s.target.storageClass
  return workspace

/-- Which documents a download found. -/
structure Found where
  commonVars : Bool
  metadata : Bool
  deriving DecidableEq, Repr

/-- Reads the documents of a workspace back into the directory. Each of them may be missing. -/
def download (s : MetadataSync) (workspace : String) : Sync.Plan Found := do
  let commonKey ← Plan.ofExcept (BlobKey.workspaceFile workspace Document.commonVarsFile)
  let common ← Sync.downloadIfExists commonKey (s.dir.join Document.commonVarsFile)
  let metadataKey ← Plan.ofExcept (BlobKey.workspaceFile workspace Metadata.fileName)
  let metadata ← Sync.downloadIfExists metadataKey (s.dir.join Metadata.fileName)
  return ⟨common, metadata⟩

/-- The properties of a workspace. -/
def properties (document : Document) (metadata : Metadata) : Except Error Properties := do
  let provider ← document.property "storage.provider"
  let backup ← document.property "k8s.abs.version"
  let database ← document.property "asdb.version"
  return .ofList
    [("ASDB_IPS", Literal.listText metadata.nodes), ("GW_IP", metadata.gateway),
      ("STORAGE_PROVIDER", provider), ("ABS_VERSION", backup), ("ASDB_VERSION", database)]

/-- Writes the properties of a workspace. Both documents have to be there. -/
def setEnv (s : MetadataSync) (workspace : String) : Sync.Plan Properties := do
  let commonKey ← Plan.ofExcept (BlobKey.workspaceFile workspace Document.commonVarsFile)
  let commonBytes ← Sync.fetchRequired s.target.bucket commonKey Document.commonVarsFile
  let document ← Plan.ofExcept (Document.ofBytes commonBytes)
  let metadataKey ← Plan.ofExcept (BlobKey.workspaceFile workspace Metadata.fileName)
  let metadataBytes ← Sync.fetchRequired s.target.bucket metadataKey Metadata.fileName
  let metadata ← Plan.ofExcept (Metadata.ofBytes metadataBytes)
  let p ← Plan.ofExcept (properties document metadata)
  Sync.writeFile s.propertiesPath (Bytes.ofText p.render)
  return p

end MetadataSync

end DeploySync
