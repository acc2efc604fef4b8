import DeploySync.Decimal.Shortest

/-!
# The text of a double

Doubles are written in decimal, either with all places or with a power of ten. The formats that
the library writes differ in where one ends and the other begins, and in the spelling of the
exponent.

## Main definitions

* `Double.Format` — the choices of a format
* `Double.text` — a finite double in a format
* `Double.positional` — a finite double with all its places
-/

namespace DeploySync.Double

/-- The choices of a format. A number whose leading digit stands for `10 ^ p` is written with all
places when `lowest ≤ p ≤ highest`; otherwise the exponent has a sign when `signed`, and at least
`exponentWidth` digits. -/
structure Format where
  lowest : Int
  highest : Int
  signed : Bool
  exponentWidth : Nat

private def zeros (n : Nat) : List Char := List.replicate n '0'

/-- Digits and a power of ten, written with all places and at least one behind the point. -/
def placed (digits : List Char) (power : Int) : List Char :=
  if 0 ≤ power then digits ++ zeros power.toNat ++ ['.', '0']
  else
    let places := (-power).toNat
    if places < digits.length then
      digits.take (digits.length - places) ++ '.' :: digits.drop (digits.length - places)
    else '0' :: '.' :: zeros (places - digits.length) ++ digits

/-- Digits and a power of ten, written with one digit before the point and an exponent. -/
def scientific (f : Format) (digits : List Char) (power : Int) : List Char :=
  let exponent := power + digits.length - 1
  let size := Nat.toDigits 10 exponent.natAbs
  let mantissa := match digits with
    | [] => []
    | [d] => [d]
    | d :: more => d :: '.' :: more
  let sign := if exponent < 0 then ['-'] else if f.signed then ['+'] else []
  mantissa ++ 'e' :: sign ++ zeros (f.exponentWidth - size.length) ++ size

/-- A finite double in a format. -/
def text (f : Format) (d : Double) : List Char :=
  let sign := if d.isNegative then ['-'] else []
  if d.isZero then sign ++ ['0', '.', '0']
  else
    let (n, power) := d.shortest
    let digits := Nat.toDigits 10 n
    let leading := power + digits.length - 1
    if f.lowest ≤ leading && leading ≤ f.highest then sign ++ placed digits power
    else sign ++ scientific f digits power

/-- A finite double with all its places and at least one behind the point. -/
def positional (d : Double) : List Char :=
  let sign := if d.isNegative then ['-'] else []
  if d.isZero then sign ++ ['0', '.', '0']
  else
    let (n, power) := d.shortest
    sign ++ placed (Nat.toDigits 10 n) power

end DeploySync.Double
