import DeploySync.Error
import DeploySync.Literal
import DeploySync.Yaml.Layout

/-!
# Documents

The settings of an environment are a YAML document of any shape, whose fields are named by dotted
paths.

## Main definitions

* `Document` — a document
* `Document.parse`, `Document.ofBytes`, `Document.toYaml` — reading and writing
* `Document.lookup` — the value at a dotted path
* `Document.property` — that value as the value of a property
-/

namespace DeploySync

/-- A document. -/
structure Document where
  root : Yaml.Value
  deriving Repr

namespace Document

/-- The name of the file of settings of an environment. -/
def commonVarsFile : String := "common_vars.yaml"

/-- Reads a document. -/
def parse (text : String) : Except Error Document :=
  match Yaml.parse Yaml.readValue text with
  | .ok root => .ok ⟨root⟩
  | .error e => .error (.yaml e)

/-- Reads a document given as bytes. -/
def ofBytes (bytes : ByteArray) : Except Error Document :=
  match Yaml.parseBytes Yaml.readValue bytes with
  | .ok root => .ok ⟨root⟩
  | .error e => .error (.yaml e)

/-- Writes a document. -/
def toYaml (d : Document) : Except Error String :=
  match Yaml.render d.root with
  | .ok text => .ok text
  | .error e => .error (.yaml e)

/-- The segments of a dotted path. -/
def segments (path : String) : List String :=
  (Text.split '.' path.toList).map String.ofList

/-- Goes from a value down the keys, one after the other. -/
def walk (v : Yaml.Value) (keys : List String) : Option Yaml.Value :=
  keys.foldlM (fun v key => v.get? key) v

/-- The value at a dotted path. -/
def lookup (d : Document) (path : String) : Except Error Yaml.Value :=
  match walk d.root (segments path) with
  | some v => .ok v
  | none => .error (.missingField path)

/-- The value at a dotted path as the value of a property. -/
def property (d : Document) (path : String) : Except Error String :=
  match d.lookup path with
  | .error e => .error e
  | .ok v =>
    match Literal.property? v with
    | some text => .ok text
    | none => .error (.missingField (path ++ " (a mapping, not a value)"))

end Document

end DeploySync
