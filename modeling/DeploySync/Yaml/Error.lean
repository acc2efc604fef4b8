import DeploySync.Yaml.Char
import DeploySync.Decimal.Text
import DeploySync.Text.Quoted

/-!
# Errors of reading and writing YAML

## Main definitions

* `Yaml.Found` — what stands where something else was expected
* `Yaml.Misfit` — how a document does not fit what is read from it
* `Yaml.Path` — the way from the root of a document to a value
* `Yaml.Error` — a cause, with the place and the path where it is known
* `Yaml.Error.message` — its wording
-/

namespace DeploySync.Yaml

/-- What stands where something else was expected. -/
inductive Found where
  | bool (value : Bool)
  | whole (value : Int)
  | wideUnsigned (value : Nat)
  | wideSigned (value : Int)
  | double (value : Double)
  | string (value : String)
  | nothing
  | sequence
  | mapping
  deriving DecidableEq, Repr

private def plainDouble (d : Double) : String :=
  if d.isNaN then "NaN"
  else if ! d.isFinite then if d.isNegative then "-inf" else "inf"
  else String.ofList d.positional

/-- The words for what stands there. -/
def Found.message : Found → String
  | .bool true => "boolean `true`"
  | .bool false => "boolean `false`"
  | .whole n => s!"integer `{n}`"
  | .wideUnsigned n => s!"integer `{n}` as u128"
  | .wideSigned n => s!"integer `{n}` as i128"
  | .double d => s!"floating point `{plainDouble d}`"
  | .string s => s!"string {Text.quoted s}"
  | .nothing => "unit value"
  | .sequence => "sequence"
  | .mapping => "map"

/-- How the words name the key of a repeated entry. -/
inductive RepeatedKey where
  | null
  | bool (value : Bool)
  | number (text : String)
  | string (value : String)
  | collection
  deriving DecidableEq, Repr

/-- How a document does not fit what is read from it. -/
inductive Misfit where
  | missingField (name : String)
  | repeatedField (name : String)
  | unknownVariant (name : String) (expected : List String)
  | wrongType (found : Found) (expected : String)
  | wrongValue (found : Found) (expected : String)
  | repeatedEntry (key : RepeatedKey)
  deriving DecidableEq, Repr

/-- Names between backquotes, the last one behind the others. -/
def quotedNames (names : List String) : String :=
  match names with
  | [one] => s!"`{one}`"
  | [one, two] => s!"`{one}` or `{two}`"
  | _ => "one of " ++ String.intercalate ", " (names.map fun n => s!"`{n}`")

/-- The wording of a misfit. -/
def Misfit.message : Misfit → String
  | .missingField name => s!"missing field `{name}`"
  | .repeatedField name => s!"duplicate field `{name}`"
  | .unknownVariant name expected =>
    s!"unknown variant `{name}`, expected {quotedNames expected}"
  | .wrongType found expected => s!"invalid type: {found.message}, expected {expected}"
  | .wrongValue found expected => s!"invalid value: {found.message}, expected {expected}"
  | .repeatedEntry key =>
    "duplicate entry " ++
      match key with
      | .null => "with null key"
      | .bool true => "with key `true`"
      | .bool false => "with key `false`"
      | .number text => s!"with key {text}"
      | .string value => s!"with key {Text.quoted value}"
      | .collection => "in YAML map"

/-- The way from the root of a document to a value. -/
inductive Path where
  | root
  | item (parent : Path) (index : Nat)
  | entry (parent : Path) (key : String)
  /-- An entry whose key is not a scalar. -/
  | unnamed (parent : Path)
  deriving DecidableEq, Repr

/-- How a path is written; the root is a single point. -/
def Path.message : Path → String
  | .root => "."
  | .item parent index => s!"{parent.message}[{index}]"
  | .entry parent key => if parent = .root then key else s!"{parent.message}.{key}"
  | .unnamed parent => if parent = .root then "?" else s!"{parent.message}.?"

/-- The causes of an error. -/
inductive Cause where
  /-- The text is not YAML. -/
  | malformed
  | misfit (misfit : Misfit) (path : Path)
  | recursionLimit
  | repetitionLimit
  | unknownAnchor
  | moreThanOneDocument
  /-- A tagged value directly inside a tagged value cannot be written. -/
  | nestedTags
  deriving DecidableEq, Repr

/-- A cause, with the place where it was found. -/
structure Error where
  cause : Cause
  mark : Option Mark := none
  deriving DecidableEq, Repr

/-- The wording of a cause; a text that is not YAML has none. -/
def Cause.message : Cause → String
  | .malformed => ""
  | .misfit m path => if path = .root then m.message else s!"{path.message}: {m.message}"
  | .recursionLimit => "recursion limit exceeded"
  | .repetitionLimit => "repetition limit exceeded"
  | .unknownAnchor => "unknown anchor"
  | .moreThanOneDocument =>
    "deserializing from YAML containing more than one document is not supported"
  | .nestedTags => "serializing nested enums in YAML is not supported yet"

/-- The wording of an error. The first place of a document is not named. -/
def Error.message (e : Error) : String :=
  match e.mark with
  | some m =>
    if m.line = 0 && m.column = 0 then e.cause.message
    else s!"{e.cause.message} at {m.message}"
  | none => e.cause.message

/-- The text was YAML. -/
def Error.isWellFormed (e : Error) : Bool := e.cause != .malformed

end DeploySync.Yaml
