import DeploySync.Json.Members
import DeploySync.Json.Value

/-!
# Reading any JSON value

## Main definitions

* `Json.Step.value` — reads a value
* `Json.parse?` — the value that a whole text spells
-/

namespace DeploySync.Json

namespace Step

/-- What was read, as a value. Numbers keep their text. -/
private def numberValue (negative : Bool) : Step Value := do
  let before := (← get).rest
  let _ ← number negative
  let read := before.take (before.length - (← get).rest.length)
  let sign := if negative then ['-'] else []
  return .number (String.ofList (sign ++ read.map fun b => Char.ofNat b.toNat))

/-- Reads a value, with arrays and objects nested at most `depth` deep. -/
def value : (depth : Nat) → Step Value
  | 0 => fail .expectedValue
  | depth + 1 => do
    match ← skipSpace with
    | none => failAhead .endInValue
    | some b =>
      match Char.ofNat b.toNat with
      | 'n' => do
        skip
        word ['u', 'l', 'l']
        return .null
      | 't' => do
        skip
        word ['r', 'u', 'e']
        return .bool true
      | 'f' => do
        skip
        word ['a', 'l', 's', 'e']
        return .bool false
      | '-' => do
        skip
        numberValue true
      | '"' => do
        skip
        return .string (← string)
      | '[' => do
        skip
        return .array (← pieces ']' (value depth) true ((← get).rest.length + 1))
      | '{' => do
        skip
        let member : Step (String × Value) := do
          let key ← memberKey
          return (key, ← value depth)
        return .object (← pieces '}' member true ((← get).rest.length + 1))
      | c => if Text.isDigit c then numberValue false else failAhead .expectedValue

end Step

/-- Arrays and objects may be nested this deep. -/
def maxDepth : Nat := 128

/-- The value that a whole text spells. -/
def parse? (s : String) : Option Value := read? (Step.value maxDepth) s.toUTF8.toList

end DeploySync.Json
