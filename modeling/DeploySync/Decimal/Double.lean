/-!
# Binary floating-point numbers

A `Double` is a number in the 64-bit binary format: a sign, eleven bits of exponent and 52 bits
of mantissa. It is kept as its bits, so that every fact about it is a fact about numbers, and it
is made from an exact fraction by rounding to the nearest, a tie going to the even neighbour.

## Main definitions

* `Double` — the bits
* `Double.isNaN`, `Double.isFinite`, `Double.isNegative` — the classes
* `Double.magnitude` — a finite number's absolute value as `m * 2 ^ e`
* `Double.ofFraction`, `Double.ofDecimal` — the nearest double to an exact value
-/

namespace DeploySync

/-- A number in the 64-bit binary format. -/
structure Double where
  bits : UInt64
  deriving DecidableEq, Repr

namespace Double

/-- The sign bit. -/
def isNegative (d : Double) : Bool := d.bits.toNat ≥ Nat.pow 2 63

/-- The eleven bits of the exponent. -/
def exponentField (d : Double) : Nat := d.bits.toNat / Nat.pow 2 52 % Nat.pow 2 11

/-- The 52 bits of the mantissa. -/
def mantissaField (d : Double) : Nat := d.bits.toNat % Nat.pow 2 52

/-- Not a number. -/
def isNaN (d : Double) : Bool := d.exponentField == 2047 && d.mantissaField != 0

/-- Neither infinite nor not a number. -/
def isFinite (d : Double) : Bool := d.exponentField != 2047

/-- The two zeros. -/
def isZero (d : Double) : Bool := d.exponentField == 0 && d.mantissaField == 0

/-- The absolute value of a finite number, as `(m, e)` for `m * 2 ^ e`. -/
def magnitude (d : Double) : Nat × Int :=
  if d.exponentField == 0 then (d.mantissaField, -1074)
  else (Nat.pow 2 52 + d.mantissaField, (d.exponentField : Int) - 1075)

/-- Positive infinity. -/
def infinity : Double := ⟨0x7FF0000000000000⟩

/-- The number that is not a number, with a clear sign bit. -/
def nan : Double := ⟨0x7FF8000000000000⟩

/-- The number with the sign bit set or cleared. -/
def withSign (negative : Bool) (d : Double) : Double :=
  ⟨UInt64.ofNat (d.bits.toNat % Nat.pow 2 63 + if negative then Nat.pow 2 63 else 0)⟩

/-- Two numbers are the same value when their bits agree, when both are zeros, or when neither is
a number. -/
def same (a b : Double) : Bool :=
  a == b || (a.isZero && b.isZero) || (a.isNaN && b.isNaN)

/-- The quotient of two numbers rounded to the nearest whole number, ties to the even one. -/
def roundQuotient (num den : Nat) : Nat :=
  let q := num / den
  let r := num % den
  if 2 * r < den then q
  else if den < 2 * r then q + 1
  else q + q % 2

/-- The number of binary digits. -/
def bitLength (n : Nat) : Nat :=
  if n = 0 then 0 else n.log2 + 1

/-- The whole number `k` for which a positive fraction is at least `2 ^ k` and below
`2 ^ (k + 1)`. -/
def floorLog2 (num den : Nat) : Int :=
  let k : Int := (bitLength num : Int) - bitLength den
  let reaches : Bool :=
    if 0 ≤ k then den * Nat.pow 2 k.toNat ≤ num else den ≤ num * Nat.pow 2 (-k).toNat
  if reaches then k else k - 1

/-- The nearest double to the fraction `num / den`, infinite when the fraction is too large. -/
def ofFraction (num den : Nat) : Double :=
  if num = 0 then ⟨0⟩
  else
    let e := max (floorLog2 num den - 52) (-1074)
    let m :=
      if 0 ≤ e then roundQuotient num (den * Nat.pow 2 e.toNat)
      else roundQuotient (num * Nat.pow 2 (-e).toNat) den
    let (m, e) := if m = Nat.pow 2 53 then (Nat.pow 2 52, e + 1) else (m, e)
    if 971 < e then infinity
    else if m < Nat.pow 2 52 then ⟨UInt64.ofNat m⟩
    else ⟨UInt64.ofNat ((e + 1075).toNat * Nat.pow 2 52 + (m - Nat.pow 2 52))⟩

/-- The nearest double to `digits * 10 ^ exponent`. Exponents far outside the format's range are
decided without computing the power. -/
def ofDecimal (digits : Nat) (exponent : Int) : Double :=
  let size := (Nat.toDigits 10 digits).length
  if digits = 0 then ⟨0⟩
  else if 400 < exponent + size then infinity
  else if exponent + size < -400 then ⟨0⟩
  else if 0 ≤ exponent then ofFraction (digits * Nat.pow 10 exponent.toNat) 1
  else ofFraction digits (Nat.pow 10 (-exponent).toNat)

end Double

end DeploySync
