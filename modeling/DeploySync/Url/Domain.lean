import DeploySync.Url.Punycode

/-!
# Domain names

Domain names are compared without regard to letter case and to the width of characters, and written
in ASCII. The mapping covers the letters of Latin, Greek and Cyrillic; other characters stand for
themselves.

## Main definitions

* `Url.Domain.mapped` — what a character of a domain name stands for
* `Url.Domain.toAscii?` — a domain name in ASCII
-/

namespace DeploySync.Url.Domain

private def between (n low high : Nat) : Bool := low ≤ n && n ≤ high

/-- Characters that count as if they were not there. -/
private def isIgnored (n : Nat) : Bool :=
  n == 0xAD || n == 0x34F || n == 0x200B || n == 0x2060 || n == 0xFEFF || between n 0xFE00 0xFE0F

/-- Capital letters that stand before their small ones, at even numbers. -/
private def isEvenCapital (n : Nat) : Bool :=
  n % 2 == 0 && n != 0x130 &&
    (between n 0x100 0x136 || between n 0x14A 0x176 || between n 0x460 0x480 ||
      between n 0x48A 0x4BE || between n 0x4D0 0x52E || between n 0x1E00 0x1E94 ||
      between n 0x1EA0 0x1EFE)

/-- Capital letters that stand before their small ones, at odd numbers. -/
private def isOddCapital (n : Nat) : Bool :=
  n % 2 == 1 && (between n 0x139 0x147 || between n 0x179 0x17D || between n 0x4C1 0x4CD)

/-- Characters that stand for others one by one. -/
private def single? (n : Nat) : Option Nat :=
  if between n 0xC0 0xDE && n != 0xD7 then some (n + 32)
  else if between n 0x391 0x3AB && n != 0x3A2 then some (n + 32)
  else if between n 0x410 0x42F then some (n + 32)
  else if between n 0x400 0x40F then some (n + 80)
  else if isEvenCapital n || isOddCapital n then some (n + 1)
  else if between n 0xFF01 0xFF5E then some (Text.lower (Char.ofNat (n - 0xFEE0))).toNat
  else
    [(0xAA, 0x61), (0xB2, 0x32), (0xB3, 0x33), (0xB5, 0x3BC), (0xB9, 0x31), (0xBA, 0x6F),
      (0x178, 0xFF), (0x386, 0x3AC), (0x388, 0x3AD), (0x389, 0x3AE), (0x38A, 0x3AF), (0x38C, 0x3CC),
      (0x38E, 0x3CD), (0x38F, 0x3CE), (0x3002, 0x2E), (0xFF61, 0x2E), (0x4C0, 0x4CF)].lookup n

/-- Ligatures and letters that stand for several ones. -/
private def several? (n : Nat) : Option String :=
  [(0x130, "i\u0307"), (0x132, "ij"), (0x133, "ij"), (0x1E9E, "ss"), (0xFB00, "ff"), (0xFB01, "fi"),
    (0xFB02, "fl"), (0xFB03, "ffi"), (0xFB04, "ffl"), (0xFB05, "st"), (0xFB06, "st"),
    (0x2122, "tm"), (0x2116, "no")].lookup n

/-- What a character of a domain name stands for. -/
def mapped (c : Char) : List Char :=
  let n := c.toNat
  if n < 0x80 then [Text.lower c]
  else if isIgnored n then []
  else
    match several? n with
    | some s => s.toList
    | none => [Char.ofNat ((single? n).getD n)]

/-- Characters that no domain name may hold: controls, blanks and what has no meaning of its own. -/
def isRefused (c : Char) : Bool :=
  let n := c.toNat
  between n 0x80 0xA0 || n == 0x1680 || between n 0x2000 0x200F || between n 0x2028 0x202F ||
    n == 0x205F || between n 0x2066 0x206F || n == 0x3000 || between n 0xE000 0xF8FF ||
    between n 0xFFF0 0xFFFF || 0xE0000 ≤ n

/-- The start of a label that is written in Punycode. -/
def mark : List Char := ['x', 'n', '-', '-']

private def isAscii (label : List Char) : Bool := label.all fun c => c.toNat < 0x80

/-- A label that is written in Punycode spells one that is not ASCII, in the only way. -/
def isSound (digits : List Char) : Bool :=
  match Punycode.decode? digits with
  | none => false
  | some label =>
    ! isAscii label && ! label.any isRefused && label.flatMap mapped == label &&
      Punycode.encode label == digits

/-- A label in ASCII. -/
def labelToAscii? (label : List Char) : Option (List Char) :=
  if ! isAscii label then some (mark ++ Punycode.encode label)
  else
    match Text.stripStart? mark label with
    | some digits => if isSound digits then some label else none
    | none => some label

/-- A domain name in ASCII. -/
def toAscii? (domain : List Char) : Option (List Char) :=
  let domain := domain.flatMap mapped
  if domain.any isRefused then none
  else ((Text.split '.' domain).mapM labelToAscii?).map (Text.join ['.'])

end DeploySync.Url.Domain
