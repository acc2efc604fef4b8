import DeploySync.Html.Entity

/-!
# Character references

An attribute value of HTML may refer to characters by name or by number. What is no reference stands
for itself.

## Main definitions

* `Html.Reference.charOfNumber` — the character that a number refers to
* `Html.Reference.expand` — a value with its references replaced
-/

namespace DeploySync.Html.Reference

/-- The character that stands for what cannot be written. -/
def replacement : Char := '\uFFFD'

/-- What the numbers from 80 to 9F refer to. -/
private def controls : List Nat :=
  [0x20AC, 0x81, 0x201A, 0x192, 0x201E, 0x2026, 0x2020, 0x2021, 0x2C6, 0x2030, 0x160, 0x2039, 0x152,
    0x8D, 0x17D, 0x8F, 0x90, 0x2018, 0x2019, 0x201C, 0x201D, 0x2022, 0x2013, 0x2014, 0x2DC, 0x2122,
    0x161, 0x203A, 0x153, 0x9D, 0x17E, 0x178]

/-- The character that a number refers to. -/
def charOfNumber (n : Nat) : Char :=
  if n = 0 || (0xD800 ≤ n && n < 0xE000) || 0x110000 ≤ n then replacement
  else if 0x80 ≤ n && n < 0xA0 then Char.ofNat (controls.getD (n - 0x80) n)
  else Char.ofNat n

private def digitValue? (base : Nat) (c : Char) : Option Nat :=
  (Text.hexValue? c).filter (· < base)

/-- Replaces the number at the start of a text; its semicolon may be missing. -/
private def numbered? (base : Nat) (s : List Char) : Option (List Char) :=
  let isDigit (c : Char) : Bool := (digitValue? base c).isSome
  match s.takeWhile isDigit, s.dropWhile isDigit with
  | [], _ => none
  | digits, rest =>
    let n := digits.foldl (fun n c => base * n + (digitValue? base c).getD 0) 0
    some (charOfNumber n :: if rest.head? == some ';' then rest.tail else rest)

private def isNameChar (c : Char) : Bool := Text.isLetter c || Text.isDigit c

/-- Replaces the name at the start of a text. Its semicolon may be missing behind an old name, but
not before an equals sign. -/
private def named? (s : List Char) : Option (List Char) :=
  match Entity.find? (s.takeWhile isNameChar), s.dropWhile isNameChar with
  | none, _ => none
  | some e, ';' :: rest => some (e.chars ++ rest)
  | some e, rest => if e.isLegacy && rest.head? != some '=' then some (e.chars ++ rest) else none

/-- Replaces the reference whose ampersand stands in front of a text. -/
private def replaced (s : List Char) : List Char :=
  let found? := match s with
    | '#' :: 'x' :: rest => numbered? 16 rest
    | '#' :: 'X' :: rest => numbered? 16 rest
    | '#' :: rest => numbered? 10 rest
    | _ => named? s
  found?.getD ('&' :: s)

/-- A value with its references replaced. -/
def expand (s : List Char) : List Char :=
  match Text.split '&' s with
  | [] => []
  | first :: rest => first ++ rest.flatMap replaced

end DeploySync.Html.Reference
