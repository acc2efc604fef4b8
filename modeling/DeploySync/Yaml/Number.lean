import DeploySync.Decimal.Text
import DeploySync.Text.Split

/-!
# Numbers in YAML

A number is a whole number of 64 bits, signed or not, or a double. The text of a plain scalar
decides which one it is.

## Main definitions

* `Yaml.Number` — a number
* `Yaml.Number.text` — how a number is written
* `Yaml.Whole.read?` — the whole number a scalar spells, and whether 64 bits hold it
* `Yaml.readDouble?` — the double a scalar spells
* `Yaml.isPaddedDigits` — digits behind a leading zero, which are a text
-/

namespace DeploySync.Yaml

/-- A whole number of 64 bits, signed or not, or a double. -/
inductive Number where
  | whole (value : Int)
  | double (value : Double)
  deriving DecidableEq, Repr

/-- Doubles have all places while the leading digit stands for `10 ^ -5` to `10 ^ 15`. -/
def doubleFormat : Double.Format := ⟨-5, 15, false, 1⟩

/-- How a whole number is written. -/
def wholeText (n : Int) : List Char :=
  if n < 0 then '-' :: Nat.toDigits 10 n.natAbs else Nat.toDigits 10 n.natAbs

/-- How a double is written; infinity and the number that is none have names. -/
def doubleText (d : Double) : List Char :=
  if d.isNaN then ['.', 'n', 'a', 'n']
  else if ! d.isFinite then
    if d.isNegative then ['-', '.', 'i', 'n', 'f'] else ['.', 'i', 'n', 'f']
  else Double.text doubleFormat d

/-- How a number is written. -/
def Number.text : Number → List Char
  | .whole n => wholeText n
  | .double d => doubleText d

/-- Whether two numbers are the same value; a whole number is never a double. -/
def Number.same : Number → Number → Bool
  | .whole a, .whole b => a == b
  | .double a, .double b => a.same b
  | _, _ => false

/-! ### Reading -/

/-- The number that digits of a base spell; there has to be at least one. -/
def digitsValue? (base : Nat) (digits : List Char) : Option Nat :=
  if digits.isEmpty then none
  else
    digits.foldlM (fun n c =>
      match Text.hexValue? c with
      | some d => if d < base then some (base * n + d) else none
      | none => none) 0

/-- Digits behind a leading zero, which are a text and no number. -/
def isPaddedDigits (s : List Char) : Bool :=
  let s := match s with
    | '-' :: rest => rest
    | '+' :: rest => rest
    | _ => s
  match s with
  | '0' :: rest => ! rest.isEmpty && rest.all Text.isDigit
  | _ => false

/-- A whole number as a scalar spells it. The wide ones need more than 64 bits, but no more than
128; they are no values. -/
inductive Whole where
  | fits (value : Int)
  | wideUnsigned (value : Nat)
  | wideSigned (value : Int)

private def startsWithSign : List Char → Bool
  | '+' :: _ => true
  | '-' :: _ => true
  | _ => false

/-- The bases that a scalar may name in front of its digits. -/
private def namedBases : List (List Char × Nat) :=
  [(['0', 'x'], 16), (['0', 'o'], 8), (['0', 'b'], 2)]

/-- A number without a minus sign, at most `limit`. -/
def readUnsigned? (limit : Nat) (s : List Char) : Option Nat :=
  let body? := match s with
    | '+' :: rest => if startsWithSign rest then none else some rest
    | _ => some s
  match body? with
  | none => none
  | some body =>
    let named := namedBases.findSome? fun (mark, base) =>
      match Text.stripStart? mark body with
      | some digits =>
        match digitsValue? base digits with
        | some n => if n ≤ limit then some n else none
        | none => none
      | none => none
    match named with
    | some n => some n
    | none =>
      if startsWithSign body || isPaddedDigits s then none
      else
        match digitsValue? 10 body with
        | some n => if n ≤ limit then some n else none
        | none => none

/-- A number with a sign, whose absolute value is at most `limit`, or one less without a minus
sign. -/
def readSigned? (limit : Nat) (s : List Char) : Option Int :=
  let bounded (negative : Bool) (n : Option Nat) : Option Int :=
    match n with
    | some n =>
      if negative then if n ≤ limit then some (-(n : Int)) else none
      else if n < limit then some n else none
    | none => none
  let named := namedBases.findSome? fun (mark, base) =>
    match Text.stripStart? ('-' :: mark) s with
    | some digits => bounded true (digitsValue? base digits)
    | none => none
  match named with
  | some n => some n
  | none =>
    if isPaddedDigits s then none
    else
      match s with
      | '-' :: rest => bounded true (digitsValue? 10 rest)
      | '+' :: rest => bounded false (digitsValue? 10 rest)
      | _ => bounded false (digitsValue? 10 s)

/-- The whole number that a scalar spells. -/
def Whole.read? (s : List Char) : Option Whole :=
  match readUnsigned? (Nat.pow 2 64 - 1) s with
  | some n => some (.fits n)
  | none =>
    match readSigned? (Nat.pow 2 63) s with
    | some n => some (.fits n)
    | none =>
      match readUnsigned? (Nat.pow 2 128 - 1) s with
      | some n => some (.wideUnsigned n)
      | none => (readSigned? (Nat.pow 2 127) s).map .wideSigned

/-- Digits with a point and an exponent, each of them optional, as digits and a power of ten. -/
def readDecimal? (s : List Char) : Option (Nat × Int) :=
  let whole := s.takeWhile Text.isDigit
  let s := s.drop whole.length
  let (places, s) := match s with
    | '.' :: rest =>
      let places := rest.takeWhile Text.isDigit
      (places, rest.drop places.length)
    | _ => ([], s)
  if whole.isEmpty && places.isEmpty then none
  else
    let n := Text.decimalValue (whole ++ places)
    match s with
    | [] => some (n, -(places.length : Int))
    | e :: rest =>
      if e == 'e' || e == 'E' then
        let (negative, digits) := match rest with
          | '-' :: digits => (true, digits)
          | '+' :: digits => (false, digits)
          | _ => (false, rest)
        if digits.isEmpty || ! digits.all Text.isDigit then none
        else
          let exponent : Int := Text.decimalValue digits
          some (n, (if negative then -exponent else exponent) - places.length)
      else none

/-- The double that a scalar spells: a name of infinity or of the number that is none, or a
decimal that is not too large. -/
def readDouble? (s : List Char) : Option Double :=
  let body? := match s with
    | '+' :: rest => if startsWithSign rest then none else some rest
    | _ => some s
  match body? with
  | none => none
  | some body =>
    if [".inf", ".Inf", ".INF"].contains (String.ofList body) then some Double.infinity
    else if ["-.inf", "-.Inf", "-.INF"].contains (String.ofList s) then
      some (Double.infinity.withSign true)
    else if [".nan", ".NaN", ".NAN"].contains (String.ofList s) then some Double.nan
    else
      let (negative, digits) := match body with
        | '-' :: rest => (true, rest)
        | '+' :: rest => (false, rest)
        | _ => (false, body)
      match readDecimal? digits with
      | none => none
      | some (n, exponent) =>
        let d := Double.ofDecimal n exponent
        if d.isFinite then some (d.withSign negative) else none

end DeploySync.Yaml
