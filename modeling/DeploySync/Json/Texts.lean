import DeploySync.Bytes
import DeploySync.Json.Error
import DeploySync.Text.Split

/-!
# Reading a JSON list of texts

The addresses of nodes come as a JSON array of strings. Reading stops at the first fault and
names the line and the byte on it up to which the text was read.

## Main definitions

* `Json.Reader` — the bytes not yet read, and the number of those read
* `Json.Step` — reading
* `Json.parseTexts` — the texts of a list
-/

namespace DeploySync.Json

/-- The bytes not yet read, and the number of those read. -/
structure Reader where
  rest : List UInt8
  index : Nat := 0

/-- Reading fails with a fault and the number of bytes up to which it was noticed. -/
abbrev Step := StateT Reader (Except (Fault × Nat))

namespace Step

/-- The next byte. -/
def peek : Step (Option UInt8) := return (← get).rest.head?

/-- Passes one byte. -/
def skip : Step Unit := modify fun r => ⟨r.rest.tail, r.index + 1⟩

/-- The next byte, which is passed. -/
def next : Step (Option UInt8) := do
  match ← peek with
  | some b => do
    skip
    return some b
  | none => return none

/-- A fault noticed behind the byte just read. -/
def fail {α : Type} (f : Fault) : Step α := do throw (f, (← get).index)

/-- A fault noticed at the next byte. -/
def failAhead {α : Type} (f : Fault) : Step α := do
  let r ← get
  throw (f, if r.rest.isEmpty then r.index else r.index + 1)

/-- The byte of a character. -/
def code (c : Char) : UInt8 := UInt8.ofNat c.toNat

private def isSpace (b : UInt8) : Bool :=
  b == 32 || b == 10 || b == 9 || b == 13

/-- The byte is a decimal digit. -/
def isDigit (b : UInt8) : Bool := 48 ≤ b && b ≤ 57

/-- Passes blanks and gives the byte behind them. -/
def skipSpace : Step (Option UInt8) := do
  modify fun r =>
    let n := (r.rest.takeWhile isSpace).length
    ⟨r.rest.drop n, r.index + n⟩
  peek

/-- Passes the digits that stand next, and gives them. -/
def digits : Step (List UInt8) := do
  let run := (← get).rest.takeWhile isDigit
  modify fun r => ⟨r.rest.drop run.length, r.index + run.length⟩
  return run

/-- Passes the bytes of a word. -/
def word : List Char → Step Unit
  | [] => return ()
  | c :: rest => do
    match ← next with
    | none => fail .endInValue
    | some b => if b == code c then word rest else fail .expectedIdent

/-! ### Strings -/

/-- Reads four hexadecimal digits. -/
def hexEscape : Step Nat := do
  let r ← get
  match r.rest with
  | a :: b :: c :: d :: rest =>
    set (⟨rest, r.index + 4⟩ : Reader)
    match [a, b, c, d].mapM fun x => Text.hexValue? (Char.ofNat x.toNat) with
    | some values => return values.foldl (fun n v => 16 * n + v) 0
    | none => fail .invalidEscape
  | _ =>
    set (⟨[], r.index + r.rest.length⟩ : Reader)
    fail .endInString

private def expectOrEnd (c : Char) : Step Unit := do
  match ← peek with
  | none => fail .endInString
  | some b => do
    skip
    if b == code c then return () else fail .endOfHexEscape

/-- Reads the character of a numeric escape; two escapes spell a character beyond the first
65536. -/
def unicodeEscape : Step Char := do
  let high ← hexEscape
  if 0xDC00 ≤ high && high ≤ 0xDFFF then fail .loneSurrogate
  else if high < 0xD800 || 0xDBFF < high then return Char.ofNat high
  else
    expectOrEnd '\\'
    expectOrEnd 'u'
    let low ← hexEscape
    if low < 0xDC00 || 0xDFFF < low then fail .loneSurrogate
    else return Char.ofNat ((high - 0xD800) * 1024 + (low - 0xDC00) + 0x10000)

/-- Reads the character behind a backslash. -/
def escape : Step Char := do
  match ← next with
  | none => fail .endInString
  | some b =>
    match Char.ofNat b.toNat with
    | '"' => return '"'
    | '\\' => return '\\'
    | '/' => return '/'
    | 'b' => return '\x08'
    | 'f' => return '\x0c'
    | 'n' => return '\n'
    | 'r' => return '\r'
    | 't' => return '\t'
    | 'u' => unicodeEscape
    | _ => fail .invalidEscape

/-- Reads the bytes of a string behind its opening quote, up to the closing one. -/
def stringBytes : (fuel : Nat) → Step (List UInt8)
  | 0 => fail .endInString
  | fuel + 1 => do
    match ← peek with
    | none => fail .endInString
    | some b =>
      if b == code '"' then do
        skip
        return []
      else if b == code '\\' then do
        skip
        let c ← escape
        return String.utf8EncodeChar c ++ (← stringBytes fuel)
      else if b < 32 then do
        skip
        fail .controlCharacter
      else do
        skip
        return b :: (← stringBytes fuel)

/-- Reads a string behind its opening quote. -/
def string : Step String := do
  let bytes ← stringBytes ((← get).rest.length + 1)
  match Bytes.text? ⟨bytes.toArray⟩ with
  | some s => return s
  | none => fail .notText

/-! ### Numbers -/

private def digitsValue (ds : List UInt8) : Nat :=
  ds.foldl (fun n d => 10 * n + (d.toNat - 48)) 0

/-- The digits that fit into 64 bits, and the number of those that do not. -/
def takeFitting (start : Nat) : List UInt8 → Nat × List UInt8
  | [] => (start, [])
  | d :: rest =>
    let n := 10 * start + (d.toNat - 48)
    if n < Nat.pow 2 64 then takeFitting n rest else (start, d :: rest)

/-- The product of two finite numbers that are not negative. -/
def mul (a b : Double) : Double :=
  let (m, e) := a.magnitude
  let (n, f) := b.magnitude
  Double.ofFraction (m * n * Nat.pow 2 (e + f).toNat) (Nat.pow 2 (-(e + f)).toNat)

/-- The quotient of two finite numbers that are not negative. -/
def div (a b : Double) : Double :=
  let (m, e) := a.magnitude
  let (n, f) := b.magnitude
  Double.ofFraction (m * Nat.pow 2 (e - f).toNat) (n * Nat.pow 2 (f - e).toNat)

/-- A significand scaled by a power of ten in steps of at most `10 ^ 308`, each of them rounded. -/
def scaled : (fuel : Nat) → Double → Int → Option Double
  | 0, d, _ => some d
  | fuel + 1, d, exponent =>
    if exponent.natAbs ≤ 308 then
      let power := Double.ofDecimal 1 exponent.natAbs
      if 0 ≤ exponent then
        let product := mul d power
        if product.isFinite then some product else none
      else some (div d power)
    else if d.isZero then some d
    else if 0 ≤ exponent then none
    else scaled fuel (div d (Double.ofDecimal 1 308)) (exponent + 308)

private def double (negative : Bool) (significand : Nat) (exponent : Int) : Step Found := do
  match scaled 8 (Double.ofFraction significand 1) exponent with
  | some d => return .double (d.withSign negative)
  | none => fail .numberOutOfRange

/-- Reads an exponent behind its letter. -/
def exponentPart (negative : Bool) (significand : Nat) (exponent : Int) : Step Found := do
  let negativeExponent ←
    match ← peek with
    | some b =>
      if b == code '+' then do
        skip
        pure false
      else if b == code '-' then do
        skip
        pure true
      else pure false
    | none => pure false
  match ← next with
  | none => fail .endInValue
  | some b =>
    if ! isDigit b then fail .invalidNumber
    else
      let r ← get
      let run := r.rest.takeWhile isDigit
      -- digits are read while the exponent fits into 32 bits
      let fitting := (List.range run.length).find? fun n =>
        digitsValue (b :: run.take (n + 1)) ≥ Nat.pow 2 31
      match fitting with
      | some n => do
        set (⟨r.rest.drop (n + 1), r.index + n + 1⟩ : Reader)
        if significand ≠ 0 && ! negativeExponent then fail .numberOutOfRange
        else do
          let _ ← digits
          return .double ((⟨0⟩ : Double).withSign negative)
      | none => do
        let _ ← digits
        let e : Int := digitsValue (b :: run)
        double negative significand (if negativeExponent then exponent - e else exponent + e)

/-- The letter of an exponent stands next. -/
def atExponent : Step Bool := do
  match ← peek with
  | some b => return b == code 'e' || b == code 'E'
  | none => return false

/-- Reads the places behind the point, and the exponent behind them. Places that do not fit into
64 bits are passed over. -/
def placesPart (negative : Bool) (significand : Nat) (exponent : Int) : Step Found := do
  let run ← digits
  if run.isEmpty then
    match ← peek with
    | some _ => failAhead .invalidNumber
    | none => failAhead .endInValue
  else
    let (n, excess) := takeFitting significand run
    let exponent := exponent - ((run.length - excess.length : Nat) : Int)
    if ← atExponent then do
      skip
      exponentPart negative n exponent
    else double negative n exponent

/-- Reads what may follow the digits of a whole number. -/
def numberTail (negative : Bool) (significand excess : Nat) : Step Found := do
  match ← peek with
  | some b =>
    if b == code '.' then do
      skip
      placesPart negative significand excess
    else if b == code 'e' || b == code 'E' then do
      skip
      exponentPart negative significand excess
    else whole
  | none => whole
where
  /-- Without places and exponent a number is whole, as far as 64 bits go. -/
  whole : Step Found :=
    if excess ≠ 0 then double negative significand excess
    else if ! negative then return .whole significand
    else if significand = 0 || Nat.pow 2 63 < significand then double true significand 0
    else return .whole (-(significand : Int))

/-- Reads a number behind its sign. -/
def number (negative : Bool) : Step Found := do
  match ← next with
  | none => fail .endInValue
  | some b =>
    if b == code '0' then
      match ← peek with
      | some d => if isDigit d then failAhead .invalidNumber else numberTail negative 0 0
      | none => numberTail negative 0 0
    else if isDigit b then do
      let run ← digits
      let (n, excess) := takeFitting 0 (b :: run)
      numberTail negative n excess.length
    else fail .invalidNumber

/-! ### Lists -/

/-- Reads the value that stands where another type was expected, and refuses it. -/
def refuse {α : Type} (expected : String) : Step α := do
  let found ←
    match ← peek with
    | none => failAhead .expectedValue
    | some b =>
      match Char.ofNat b.toNat with
      | 'n' => do
        skip
        word ['u', 'l', 'l']
        pure Found.null
      | 't' => do
        skip
        word ['r', 'u', 'e']
        pure (.bool true)
      | 'f' => do
        skip
        word ['a', 'l', 's', 'e']
        pure (.bool false)
      | '-' => do
        skip
        number true
      | '"' => do
        skip
        pure (.string (← string))
      | '[' => pure .array
      | '{' => pure .object
      | _ => if isDigit b then number false else failAhead .expectedValue
  fail (.wrongType found expected)

/-- Reads a value that has to be a string. -/
def text : Step String := do
  match ← skipSpace with
  | none => failAhead .endInValue
  | some b =>
    if b == code '"' then do
      skip
      string
    else refuse "a string"

/-- Reads the strings of an array behind its opening bracket or a comma. -/
def texts (first : Bool) : (fuel : Nat) → Step (List String)
  | 0 => fail .endInList
  | fuel + 1 => do
    match ← skipSpace with
    | none => failAhead .endInList
    | some b =>
      if b == code ']' then do
        skip
        return []
      else if first then
        let s ← text
        return s :: (← texts false fuel)
      else if b == code ',' then do
        skip
        match ← skipSpace with
        | none => failAhead .endInValue
        | some b =>
          if b == code ']' then failAhead .trailingComma
          else
            let s ← text
            return s :: (← texts false fuel)
      else failAhead .expectedListEnd

/-- Reads a whole text as an array of strings. -/
def document : Step (List String) := do
  match ← skipSpace with
  | none => failAhead .endInValue
  | some b =>
    if b == code '[' then do
      skip
      let items ← texts true ((← get).rest.length + 1)
      match ← skipSpace with
      | some _ => failAhead .trailingCharacters
      | none => return items
    else refuse "a sequence"

end Step

/-- The position behind the first `index` bytes. -/
def positionOf (bytes : List UInt8) (index : Nat) : Position :=
  let before := bytes.take index
  let line := before.reverse.takeWhile (· != 10)
  ⟨1 + before.count 10, line.length⟩

/-- The texts of a JSON list. -/
def parseTexts (s : String) : Except Error (List String) :=
  let bytes := s.toUTF8.toList
  match Step.document.run { rest := bytes } with
  | .ok (items, _) => .ok items
  | .error (f, index) => .error (.fault f (some (positionOf bytes index)))

end DeploySync.Json
