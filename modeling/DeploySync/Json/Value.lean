import DeploySync.Text.Split

/-!
# JSON values and how they are written

## Main definitions

* `Json.Value` — a value; numbers are kept by their text
* `Json.quote` — a text between quotes
* `Json.Value.compact` — a value without blanks
* `Json.Value.pretty` — a value on several lines, indented by two blanks for each level
-/

namespace DeploySync.Json

/-- A value. The members of an object stand in the order in which they are written. -/
inductive Value where
  | null
  | bool (b : Bool)
  | number (text : String)
  | string (s : String)
  | array (items : List Value)
  | object (members : List (String × Value))
  deriving Repr

/-- A text, or null if there is none. -/
def Value.ofText? : Option String → Value
  | some s => .string s
  | none => .null

private def hexLower (n : Nat) : Char :=
  if n < 10 then Char.ofNat (48 + n) else Char.ofNat (87 + n)

/-- How a character of a text is written: quotes, backslashes and control characters are
escaped. -/
def escape (c : Char) : List Char :=
  if c = '"' then ['\\', '"']
  else if c = '\\' then ['\\', '\\']
  else if c = '\n' then ['\\', 'n']
  else if c = '\r' then ['\\', 'r']
  else if c = '\t' then ['\\', 't']
  else if c = '\x08' then ['\\', 'b']
  else if c = '\x0c' then ['\\', 'f']
  else if c.toNat < 0x20 then
    ['\\', 'u', '0', '0', hexLower (c.toNat / 16), hexLower (c.toNat % 16)]
  else [c]

/-- A text between quotes. -/
def quote (s : String) : List Char := '"' :: s.toList.flatMap escape ++ ['"']

mutual

/-- A value without blanks. -/
def Value.compact : Value → List Char
  | .null => "null".toList
  | .bool true => "true".toList
  | .bool false => "false".toList
  | .number t => t.toList
  | .string s => quote s
  | .array items => '[' :: Text.join [','] (compactItems items) ++ [']']
  | .object members => '{' :: Text.join [','] (compactMembers members) ++ ['}']

/-- Items without blanks. -/
def compactItems : List Value → List (List Char)
  | [] => []
  | v :: rest => v.compact :: compactItems rest

/-- Members without blanks. -/
def compactMembers : List (String × Value) → List (List Char)
  | [] => []
  | (k, v) :: rest => (quote k ++ ':' :: v.compact) :: compactMembers rest

end

/-- The start of a line at a level. -/
def indent (level : Nat) : List Char := '\n' :: List.replicate (2 * level) ' '

/-- Pieces on lines of their own between two brackets. -/
def block (level : Nat) (left right : Char) (pieces : List (List Char)) : List Char :=
  match pieces with
  | [] => [left, right]
  | pieces =>
    let start := indent (level + 1)
    left :: start ++ Text.join (',' :: start) pieces ++ indent level ++ [right]

mutual

/-- A value on several lines. -/
def Value.pretty (level : Nat) : Value → List Char
  | .null => "null".toList
  | .bool true => "true".toList
  | .bool false => "false".toList
  | .number t => t.toList
  | .string s => quote s
  | .array items => block level '[' ']' (prettyItems (level + 1) items)
  | .object members => block level '{' '}' (prettyMembers (level + 1) members)

/-- Items on several lines. -/
def prettyItems (level : Nat) : List Value → List (List Char)
  | [] => []
  | v :: rest => v.pretty level :: prettyItems level rest

/-- Members on several lines. -/
def prettyMembers (level : Nat) : List (String × Value) → List (List Char)
  | [] => []
  | (k, v) :: rest => (quote k ++ [':', ' '] ++ v.pretty level) :: prettyMembers level rest

end

/-- The member of an object under a key, the last one if there are several. -/
def Value.member? (key : String) : Value → Option Value
  | .object members => members.reverse.lookup key
  | _ => none

end DeploySync.Json
