import DeploySync.Text.Split
import DeploySync.Yaml.Value

/-!
# Literals

Values go into properties files in a form that fits on one line: `None`, `True`, `False`, numbers,
quoted texts, lists in brackets and mappings in braces. Tags leave no trace.

## Main definitions

* `Literal.quote` — a text between quotes
* `Literal.text` — the literal of a value
* `Literal.listText` — the literal of a list of texts
* `Literal.property?` — the value of a property: a text as it is, anything else but a mapping as
  its literal
-/

namespace DeploySync.Literal

/-- One character between quotes. -/
def escape (delimiter c : Char) : List Char :=
  if c = '\\' then ['\\', '\\']
  else if c = '\n' then ['\\', 'n']
  else if c = '\r' then ['\\', 'r']
  else if c = '\t' then ['\\', 't']
  else if c = delimiter then ['\\', c]
  else [c]

/-- Texts stand between single quotes, or between double ones if that saves escapes: when they
hold single quotes and no double ones. -/
def delimiter (s : List Char) : Char :=
  if s.contains '\'' && ! s.contains '"' then '"' else '\''

/-- A text between quotes. -/
def quote (s : List Char) : List Char :=
  let d := delimiter s
  d :: s.flatMap (escape d) ++ [d]

/-- Items with a comma and a space between them. -/
def commaSeparated : List (List Char) → List Char := Text.join [',', ' ']

mutual

/-- The literal of a value. -/
def chars : Yaml.Value → List Char
  | .null => ['N', 'o', 'n', 'e']
  | .bool true => ['T', 'r', 'u', 'e']
  | .bool false => ['F', 'a', 'l', 's', 'e']
  | .number n => n.text
  | .string s => quote s.toList
  | .sequence items => '[' :: commaSeparated (itemChars items) ++ [']']
  | .mapping entries => '{' :: commaSeparated (entryChars entries) ++ ['}']
  | .tagged _ v => chars v

/-- The literals of the items of a list. -/
def itemChars : List Yaml.Value → List (List Char)
  | [] => []
  | v :: rest => chars v :: itemChars rest

/-- The literals of the entries of a mapping. -/
def entryChars : List (Yaml.Value × Yaml.Value) → List (List Char)
  | [] => []
  | (k, v) :: rest => (chars k ++ ':' :: ' ' :: chars v) :: entryChars rest

end

/-- The literal of a value. -/
def text (v : Yaml.Value) : String := String.ofList (chars v)

/-- The literal of a list of texts. -/
def listText (items : List String) : String :=
  String.ofList ('[' :: commaSeparated (items.map fun s => quote s.toList) ++ [']'])

/-- The value of a property: a text as it is, anything else as its literal; a mapping has none. -/
def property? (v : Yaml.Value) : Option String :=
  match v.untagged with
  | .string s => some s
  | .mapping _ => none
  | v => some (text v)

end DeploySync.Literal
