import DeploySync.Text.Utf8
import DeploySync.Url.Domain
import DeploySync.Url.Percent

/-!
# Hosts of a URL

A host is a domain name in lower-case ASCII, an IPv4 address, or an IPv6 address in brackets. Other
spellings of addresses are accepted and written in the usual one.

## Main definitions

* `Url.Fault` — why a text is no URL
* `Url.Host.parse` — the host of a URL with a known scheme, as it is written
* `Url.Host.parseOpaque` — the host of any other URL
-/

namespace DeploySync.Url

/-- Why a text is no URL. -/
inductive Fault where
  | noScheme
  | emptyHost
  | invalidDomain
  | invalidPort
  | invalidIpv4
  | invalidIpv6
  | invalidHostCharacter
  deriving DecidableEq, Repr

/-- The wording of a fault. -/
def Fault.message : Fault → String
  | .noScheme => "relative URL without a base"
  | .emptyHost => "empty host"
  | .invalidDomain => "invalid international domain name"
  | .invalidPort => "invalid port number"
  | .invalidIpv4 => "invalid IPv4 address"
  | .invalidIpv6 => "invalid IPv6 address"
  | .invalidHostCharacter => "invalid domain character"

namespace Host

/-! ### IPv4 -/

/-- A part of an IPv4 address: decimal, octal behind a zero, or hexadecimal behind `0x`. -/
def ipv4Number? (s : List Char) : Option Nat :=
  let inBase (base : Nat) (digits : List Char) : Option Nat :=
    digits.foldlM (fun n c =>
      match Text.hexValue? c with
      | some d => if d < base then some (base * n + d) else none
      | none => none) 0
  match s with
  | [] => none
  | '0' :: 'x' :: digits => inBase 16 digits
  | '0' :: 'X' :: digits => inBase 16 digits
  | '0' :: d :: digits => inBase 8 (d :: digits)
  | digits => inBase 10 digits

/-- The labels of a domain, the empty one behind a final point left out. -/
def labels (domain : List Char) : List (List Char) :=
  let parts := Text.split '.' domain
  if parts.length > 1 && parts.getLast? == some [] then parts.dropLast else parts

/-- The last label is a number, so that the domain has to be an IPv4 address. -/
def endsInNumber (domain : List Char) : Bool :=
  match (labels domain).getLast? with
  | none => false
  | some last =>
    (! last.isEmpty && last.all Text.isDigit) || (ipv4Number? last).isSome

/-- Reads an IPv4 address of one to four parts; the last part fills the bytes that are left. -/
def parseIpv4 (domain : List Char) : Except Fault (List Char) :=
  let parts := labels domain
  match parts.mapM ipv4Number? with
  | none => .error .invalidIpv4
  | some numbers =>
    let last := numbers.getLast?.getD 0
    let lead := numbers.dropLast
    if 4 < numbers.length || lead.any (255 < ·) || Nat.pow 256 (5 - numbers.length) ≤ last then
      .error .invalidIpv4
    else
      let value := (List.range lead.length).foldl
        (fun v i => v + (lead[i]?.getD 0) * Nat.pow 256 (3 - i)) last
      .ok (Text.join ['.'] ((List.range 4).map fun i =>
        Nat.toDigits 10 (value / Nat.pow 256 (3 - i) % 256)))

/-! ### IPv6 -/

/-- Reads the pieces of an IPv6 address between colons; the last one may be an IPv4 address, which
makes two pieces. -/
def ipv6Pieces? : List (List Char) → Option (List Nat)
  | [] => some []
  | piece :: rest =>
    let number? : Option Nat :=
      if piece.isEmpty || 4 < piece.length then none
      else (piece.mapM Text.hexValue?).map fun ds => ds.foldl (fun n d => 16 * n + d) 0
    match number? with
    | some n => (ipv6Pieces? rest).map (n :: ·)
    | none =>
      if ! rest.isEmpty then none
      else
        let parts := Text.split '.' piece
        let byte? (s : List Char) : Option Nat :=
          if s.isEmpty || ! s.all Text.isDigit || (1 < s.length && s.head? == some '0') then none
          else if Text.decimalValue s ≤ 255 then some (Text.decimalValue s) else none
        match parts.mapM byte? with
        | some [a, b, c, d] => some [256 * a + b, 256 * c + d]
        | _ => none

/-- Cuts at the first `::`. -/
def cutDoubleColon : List Char → Option (List Char × List Char)
  | ':' :: ':' :: rest => some ([], rest)
  | c :: rest => (cutDoubleColon rest).map fun (a, b) => (c :: a, b)
  | [] => none

private def pieces (s : List Char) : List (List Char) :=
  if s.isEmpty then [] else Text.split ':' s

/-- The eight pieces of an IPv6 address. -/
def ipv6? (s : List Char) : Option (List Nat) :=
  match cutDoubleColon s with
  | none =>
    match ipv6Pieces? (pieces s) with
    | some ps => if ps.length = 8 then some ps else none
    | none => none
  | some (before, after) =>
    match (pieces before).mapM fun p => ipv6Pieces? [p], ipv6Pieces? (pieces after) with
    | some front, some back =>
      let front := front.flatten
      if front.length = (pieces before).length && front.length + back.length ≤ 7 then
        some (front ++ List.replicate (8 - front.length - back.length) 0 ++ back)
      else none
    | _, _ => none

/-- The first of the longest runs of at least two zeros, as its start and its length. -/
def longestZeros (ps : List Nat) : Option (Nat × Nat) :=
  let run (i : Nat) : Nat := ((ps.drop i).takeWhile (· == 0)).length
  (List.range ps.length).foldl (fun best i =>
    let n := run i
    match best with
    | some (_, longest) => if longest < n then some (i, n) else best
    | none => if 1 < n then some (i, n) else none) none

/-- An IPv6 address as it is written: the longest run of zeros is left out. -/
def writeIpv6 (ps : List Nat) : List Char :=
  let hex (ns : List Nat) : List Char := Text.join [':'] (ns.map fun n => Nat.toDigits 16 n)
  match longestZeros ps with
  | none => hex ps
  | some (start, length) => hex (ps.take start) ++ [':', ':'] ++ hex (ps.drop (start + length))

/-! ### Hosts -/

/-- The characters that no host may hold. -/
def isForbidden (c : Char) : Bool :=
  "\x00 #/:<>?@[\\]^|".toList.contains c

/-- The characters that no domain name may hold. -/
def isForbiddenInDomain (c : Char) : Bool :=
  isForbidden c || c.toNat < 0x20 || c.toNat == 0x7F || "%`{}".toList.contains c

private def bracketed (s : List Char) : Except Fault (List Char) :=
  match s.tail.reverse with
  | ']' :: inner =>
    match ipv6? inner.reverse with
    | some ps => .ok ('[' :: writeIpv6 ps ++ [']'])
    | none => .error .invalidIpv6
  | _ => .error .invalidIpv6

/-- The host of a URL with a known scheme, as it is written. -/
def parse (s : List Char) : Except Fault (List Char) :=
  if s.head? == some '[' then bracketed s
  else
    match Domain.toAscii? (Text.Utf8.lossy (percentDecode s)) with
    | none => .error .invalidDomain
    | some domain =>
      if domain.any isForbiddenInDomain then .error .invalidDomain
      else if domain.isEmpty then .error .emptyHost
      else if endsInNumber domain then parseIpv4 domain
      else .ok domain

/-- The host of a URL whose scheme is not known; it is kept as it is. -/
def parseOpaque (s : List Char) : Except Fault (List Char) :=
  if s.head? == some '[' then bracketed s
  else if s.any isForbidden then .error .invalidHostCharacter
  else .ok (encodeWith isAlwaysEscaped s)

end Host

end DeploySync.Url
