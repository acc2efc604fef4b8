import DeploySync.Json.Texts

/-!
# Reading the members of a JSON object

An object is read for some of its members. What stands under other keys is passed over: it has to be
well-formed, but its numbers may have any size, its strings need not spell a text, and its lists may
be nested as deep as they like.

## Main definitions

* `Json.Step.pieces`, `Json.Step.memberKey` — the pieces between two brackets, and keys among them
* `Json.Step.flag`, `Json.Step.text?` — a truth value, and a text that may be null
* `Json.Step.pass` — passes over a value
* `Json.read?` — what is read from bytes as a whole
-/

namespace DeploySync.Json

namespace Step

/-- Reads what stands between two brackets: pieces with commas between them. -/
def pieces {α : Type} (close : Char) (piece : Step α) (first : Bool) :
    (fuel : Nat) → Step (List α)
  | 0 => fail .endInList
  | fuel + 1 => do
    match ← skipSpace with
    | none => failAhead .endInList
    | some b =>
      if b == UInt8.ofNat close.toNat then do
        skip
        return []
      else if first then
        let a ← piece
        return a :: (← pieces close piece false fuel)
      else if b == 44 then do
        skip
        match ← skipSpace with
        | none => failAhead .endInValue
        | some b =>
          if b == UInt8.ofNat close.toNat then failAhead .trailingComma
          else
            let a ← piece
            return a :: (← pieces close piece false fuel)
      else failAhead .expectedListEnd

/-- Reads the key of a member and the colon behind it. -/
def memberKey : Step String := do
  match ← skipSpace with
  | some 34 => do
    skip
    let key ← string
    match ← skipSpace with
    | some 58 => do
      skip
      return key
    | _ => failAhead .expectedValue
  | _ => failAhead .expectedValue

/-- Passes blanks and the character behind them. -/
def expect (c : Char) : Step Unit := do
  match ← skipSpace with
  | some b => if b == code c then skip else failAhead .expectedValue
  | none => failAhead .endInValue

/-- Reads a truth value. -/
def flag : Step Bool := do
  match ← skipSpace with
  | none => failAhead .endInValue
  | some b =>
    match Char.ofNat b.toNat with
    | 't' => do
      skip
      word ['r', 'u', 'e']
      return true
    | 'f' => do
      skip
      word ['a', 'l', 's', 'e']
      return false
    | _ => refuse "a boolean"

/-- Reads a text, or null. -/
def text? : Step (Option String) := do
  match ← skipSpace with
  | some 110 => do
    skip
    word ['u', 'l', 'l']
    return none
  | _ => return some (← text)

/-! ### Passing over values -/

/-- Passes what stands behind a backslash. Four digits need not spell a character. -/
def passEscape : Step Unit := do
  match ← next with
  | none => fail .endInString
  | some b =>
    let c := Char.ofNat b.toNat
    if c == 'u' then
      let _ ← hexEscape
      return ()
    else if "\"\\/bfnrt".toList.contains c then return ()
    else fail .invalidEscape

/-- Passes the bytes of a string behind its opening quote, and the closing one. -/
def passString : (fuel : Nat) → Step Unit
  | 0 => fail .endInString
  | fuel + 1 => do
    match ← next with
    | none => fail .endInString
    | some b =>
      if b == code '"' then return ()
      else if b == code '\\' then do
        passEscape
        passString fuel
      else if b < 32 then fail .controlCharacter
      else passString fuel

/-- Passes digits, of which there has to be one. -/
def passDigits : Step Unit := do
  if (← digits).isEmpty then failAhead .invalidNumber else return ()

/-- Passes the digits before the point; no other one stands behind a leading zero. -/
def passWhole : Step Unit := do
  match ← peek with
  | some 48 => do
    skip
    match ← peek with
    | some d => if isDigit d then failAhead .invalidNumber else return ()
    | none => return ()
  | _ => passDigits

/-- Passes a point with the places behind it, if there is one. -/
def passPlaces : Step Unit := do
  match ← peek with
  | some 46 => do
    skip
    passDigits
  | _ => return ()

/-- Passes a sign, if there is one. -/
def passSign : Step Unit := do
  match ← peek with
  | some b => if b == code '+' || b == code '-' then skip else return ()
  | none => return ()

/-- Passes an exponent, if there is one. -/
def passExponent : Step Unit := do
  if ← atExponent then do
    skip
    passSign
    passDigits
  else return ()

/-- Passes a number behind its sign, of whatever size. -/
def passNumber : Step Unit := do
  passWhole
  passPlaces
  passExponent

/-- Passes a value with lists and objects nested at most `depth` deep. -/
def passNested : (depth : Nat) → Step Unit
  | 0 => fail .endInValue
  | depth + 1 => do
    match ← skipSpace with
    | none => failAhead .endInValue
    | some b =>
      match Char.ofNat b.toNat with
      | 'n' => do
        skip
        word ['u', 'l', 'l']
      | 't' => do
        skip
        word ['r', 'u', 'e']
      | 'f' => do
        skip
        word ['a', 'l', 's', 'e']
      | '-' => do
        skip
        passNumber
      | '"' => do
        skip
        passString ((← get).rest.length + 1)
      | '[' => do
        skip
        let _ ← pieces ']' (passNested depth) true ((← get).rest.length + 1)
        return ()
      | '{' => do
        skip
        let member : Step Unit := do
          expect '"'
          passString ((← get).rest.length + 1)
          expect ':'
          passNested depth
        let _ ← pieces '}' member true ((← get).rest.length + 1)
        return ()
      | c => if Text.isDigit c then passNumber else failAhead .expectedValue

/-- Passes a value. It cannot be nested deeper than it has bytes. -/
def pass : Step Unit := do passNested ((← get).rest.length + 1)

/-- Reads to the end, where only blanks are left. -/
def whole {α : Type} (step : Step α) : Step α := do
  let a ← step
  match ← skipSpace with
  | some _ => failAhead .trailingCharacters
  | none => return a

end Step

/-- What a step reads from bytes as a whole. -/
def read? {α : Type} (step : Step α) (bytes : List UInt8) : Option α :=
  match (Step.whole step).run { rest := bytes } with
  | .ok (a, _) => some a
  | .error _ => none

end DeploySync.Json
