import DeploySync.Decimal.Double

/-!
# The shortest decimal digits of a double

A finite double is written with the fewest digits that read back as the same number, and among
those with the digits nearest to its exact value.

## Main definitions

* `Double.Rounding` — the interval of values that round to a double
* `Double.shortest` — the digits, and the power of ten they are multiplied with
-/

namespace DeploySync.Double

/-- The values that round to a double, as multiples of `1 / den`: those between `low` and `high`,
the ends included when `closed`; `value` is the double itself. -/
structure Rounding where
  low : Nat
  value : Nat
  high : Nat
  den : Nat
  closed : Bool

/-- The interval around `m * 2 ^ e`. Below a power of two the numbers are twice as dense. -/
def roundingOf (m : Nat) (e : Int) : Rounding :=
  let up := Nat.pow 2 e.toNat
  let down := Nat.pow 2 (-e).toNat
  let below := if m = Nat.pow 2 52 && -1074 < e then 1 else 2
  { low := (4 * m - below) * up
    value := 4 * m * up
    high := (4 * m + 2) * up
    den := 4 * down
    closed := m % 2 == 0 }

/-- The fraction `n / d` lies in the interval. -/
def Rounding.contains (r : Rounding) (n d : Nat) : Bool :=
  let x := n * r.den
  if r.closed then r.low * d ≤ x && x ≤ r.high * d else r.low * d < x && x < r.high * d

/-- The power of ten of the leading digit of a positive fraction. -/
def leadingPower (num den : Nat) : Int :=
  let k : Int := (Nat.toDigits 10 num).length - (Nat.toDigits 10 den).length
  let reaches : Bool :=
    if 0 ≤ k then den * Nat.pow 10 k.toNat ≤ num else den ≤ num * Nat.pow 10 (-k).toNat
  if reaches then k else k - 1

/-- The multiple of `10 ^ power` inside the interval that is nearest to its value, if there is
one: of the two neighbours of the value the nearer, the lower one on a tie. -/
def Rounding.nearest? (r : Rounding) (power : Int) : Option Nat :=
  let up := Nat.pow 10 power.toNat
  let down := Nat.pow 10 (-power).toNat
  -- the value in units of the power is `num / den`
  let num := r.value * down
  let den := r.den * up
  let below := num / den
  let inside (n : Nat) : Bool := r.contains (n * up) down
  let lowerIsNearer : Bool := 2 * (num % den) ≤ den
  match inside below, inside (below + 1) with
  | true, true => some (if lowerIsNearer then below else below + 1)
  | true, false => some below
  | false, true => some (below + 1)
  | false, false => none

/-- Searches the powers of ten downwards, at most `fuel` of them. -/
def Rounding.search (r : Rounding) : (fuel : Nat) → (power : Int) → Nat × Int
  | 0, power => ((r.nearest? power).getD 0, power)
  | fuel + 1, power =>
    match r.nearest? power with
    | some n => if n = 0 then search r fuel (power - 1) else (n, power)
    | none => search r fuel (power - 1)

/-- Trailing zeros move from the digits into the power of ten. -/
def stripZeros : (fuel : Nat) → Nat → Int → Nat × Int
  | 0, n, power => (n, power)
  | fuel + 1, n, power =>
    if n ≠ 0 && n % 10 = 0 then stripZeros fuel (n / 10) (power + 1) else (n, power)

/-- The digits of a finite number other than zero, without their sign, and the power of ten they
are multiplied with. -/
def shortest (d : Double) : Nat × Int :=
  let (m, e) := d.magnitude
  let r := roundingOf m e
  let (n, power) := r.search 20 (leadingPower r.value r.den)
  stripZeros 20 n power

end DeploySync.Double
