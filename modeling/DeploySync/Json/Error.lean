import DeploySync.Decimal.Text
import DeploySync.Text.Quoted

/-!
# Errors of reading JSON

## Main definitions

* `Json.Fault` — what is wrong
* `Json.Position` — the line and column up to which the text was read
* `Json.Error`, `Json.Error.message` — a fault at its place, and its wording
-/

namespace DeploySync.Json

/-- A value that stands where another type was expected. -/
inductive Found where
  | null
  | bool (value : Bool)
  | whole (value : Int)
  | double (value : Double)
  | string (value : String)
  | array
  | object
  deriving DecidableEq, Repr

/-- Doubles have all places while the leading digit stands for `10 ^ -5` to `10 ^ 15`; an exponent
has a sign and two digits. -/
def doubleFormat : Double.Format := ⟨-5, 15, true, 2⟩

/-- The words for a value. -/
def Found.message : Found → String
  | .null => "null"
  | .bool true => "boolean `true`"
  | .bool false => "boolean `false`"
  | .whole n => s!"integer `{n}`"
  | .double d => s!"floating point `{String.ofList (Double.text doubleFormat d)}`"
  | .string s => s!"string {Text.quoted s}"
  | .array => "sequence"
  | .object => "map"

/-- What is wrong with a text. -/
inductive Fault where
  | endInValue
  | endInList
  | endInString
  | expectedListEnd
  | expectedIdent
  | expectedValue
  | invalidEscape
  | invalidNumber
  | numberOutOfRange
  | controlCharacter
  | loneSurrogate
  | endOfHexEscape
  | notText
  | trailingComma
  | trailingCharacters
  | wrongType (found : Found) (expected : String)
  | unknownVariant (name : String) (expected : List String)
  deriving DecidableEq, Repr

/-- Names between backquotes: two with "or" between them, more behind "one of". -/
def quotedNames (names : List String) : String :=
  match names with
  | [one] => s!"`{one}`"
  | [one, two] => s!"`{one}` or `{two}`"
  | _ => "one of " ++ String.intercalate ", " (names.map fun n => s!"`{n}`")

/-- The wording of a fault. -/
def Fault.message : Fault → String
  | .endInValue => "EOF while parsing a value"
  | .endInList => "EOF while parsing a list"
  | .endInString => "EOF while parsing a string"
  | .expectedListEnd => "expected `,` or `]`"
  | .expectedIdent => "expected ident"
  | .expectedValue => "expected value"
  | .invalidEscape => "invalid escape"
  | .invalidNumber => "invalid number"
  | .numberOutOfRange => "number out of range"
  | .controlCharacter => "control character (\\u0000-\\u001F) found while parsing a string"
  | .loneSurrogate => "lone leading surrogate in hex escape"
  | .endOfHexEscape => "unexpected end of hex escape"
  | .notText => "invalid unicode code point"
  | .trailingComma => "trailing comma"
  | .trailingCharacters => "trailing characters"
  | .wrongType found expected => s!"invalid type: {found.message}, expected {expected}"
  | .unknownVariant name expected =>
    s!"unknown variant `{name}`, expected {quotedNames expected}"

/-- The line, counted from one, and the number of bytes read on it. -/
structure Position where
  line : Nat
  column : Nat
  deriving DecidableEq, Repr

/-- A fault, at a place if it has one, or an error that another reader words. -/
inductive Error where
  | fault (fault : Fault) (position : Option Position)
  | worded (text : String)
  deriving DecidableEq, Repr

/-- The wording of an error. -/
def Error.message : Error → String
  | .fault f none => f.message
  | .fault f (some p) => s!"{f.message} at line {p.line} column {p.column}"
  | .worded text => text

end DeploySync.Json
