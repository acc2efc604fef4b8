import DeploySync.Document
import DeploySync.Json.Texts

/-!
# Metadata

What the provisioning tool knows of a running environment is published as a document with two
fields: the addresses of the database nodes, and that of the gateway.

## Main definitions

* `Metadata` — the addresses
* `Metadata.toYaml`, `Metadata.ofBytes` — writing and reading
* `Metadata.parseNodes`, `Metadata.parseGateway` — the addresses as the tool prints them
-/

namespace DeploySync

/-- The addresses of a running environment. -/
structure Metadata where
  nodes : List String
  gateway : String
  deriving DecidableEq, Repr

namespace Metadata

/-- The name of the file of metadata. -/
def fileName : String := "metadata.yaml"

/-- The field of the node addresses. -/
def nodesField : String := "asdb-ips"

/-- The field of the gateway address. -/
def gatewayField : String := "gw-ip"

/-- Metadata as a value. -/
def toValue (m : Metadata) : Yaml.Value :=
  .mapping
    [(.string nodesField, .sequence (m.nodes.map .string)),
      (.string gatewayField, .string m.gateway)]

/-- Writes metadata. -/
def toYaml (m : Metadata) : Except Error String :=
  match Yaml.render m.toValue with
  | .ok text => .ok text
  | .error e => .error (.yaml e)

/-- The fields read so far. -/
structure Partial where
  nodes : Option (List String) := none
  gateway : Option String := none

/-- Reads one field; unknown ones are passed over. -/
def readField (t : Yaml.Tree) (p : Partial) (name : String) (path : Yaml.Path)
    (node : Yaml.Node) : Yaml.Read Partial := do
  if name = nodesField then
    if p.nodes.isSome then Yaml.Read.misfit (.repeatedField name)
    else return { p with nodes := some (← Yaml.readTexts t path node) }
  else if name = gatewayField then
    if p.gateway.isSome then Yaml.Read.misfit (.repeatedField name)
    else return { p with gateway := some (← Yaml.readText t "a string" path node) }
  else
    Yaml.passOver t node
    return p

/-- Both fields have to be there. -/
def Partial.finish (p : Partial) : Except Yaml.Misfit Metadata :=
  match p.nodes, p.gateway with
  | some nodes, some gateway => .ok ⟨nodes, gateway⟩
  | none, _ => .error (.missingField nodesField)
  | _, none => .error (.missingField gatewayField)

/-- Reads metadata from a node. -/
def read (t : Yaml.Tree) : Yaml.Path → Yaml.Node → Yaml.Read Metadata :=
  Yaml.readRecord t "struct Metadata" (readField t) {} Partial.finish

/-- Reads metadata given as bytes. -/
def ofBytes (bytes : ByteArray) : Except Error Metadata :=
  match Yaml.parseBytes read bytes with
  | .ok m => .ok m
  | .error e => .error (.yaml e)

/-- The node addresses, from a JSON array of strings. -/
def parseNodes (raw : String) : Except Error (List String) :=
  match Json.parseTexts (Text.trim raw) with
  | .ok nodes => .ok nodes
  | .error e => .error (.json e)

/-- The gateway address, from a JSON string; quotes and blanks around it are dropped. -/
def parseGateway (raw : String) : String :=
  String.ofList (Text.trimBy (· == '"') (Text.trimBy Text.isBlank raw.toList))

end Metadata

end DeploySync
