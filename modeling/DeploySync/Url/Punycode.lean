import DeploySync.Text.Split

/-!
# Punycode

A label of a domain that is not ASCII is written with its ASCII characters first, and behind them
digits that say which other characters stand where.

## Main definitions

* `Url.Punycode.encode` — a label in ASCII
* `Url.Punycode.decode?` — the label that is written so
-/

namespace DeploySync.Url.Punycode

/-- The least value of the digit at place `k` that does not end a number. -/
def threshold (k bias : Nat) : Nat :=
  if k ≤ bias then 1 else if bias + 26 ≤ k then 26 else k - bias

theorem threshold_pos (k bias : Nat) : 1 ≤ threshold k bias := by
  unfold threshold
  split
  · exact Nat.le_refl 1
  · split <;> omega

/-- Takes places of 36 off a delta until it is small. -/
def shrink (delta k : Nat) : Nat × Nat :=
  if 455 < delta then shrink (delta / 35) (k + 36) else (delta, k)
termination_by delta
decreasing_by exact Nat.div_lt_self (by omega) (by omega)

/-- The bias behind a delta. -/
def adaptBias (delta points : Nat) (first : Bool) : Nat :=
  let delta := if first then delta / 700 else delta / 2
  let (delta, k) := shrink (delta + delta / points) 0
  k + 36 * delta / (delta + 38)

private def basicDigit (n : Nat) : Char :=
  if n < 26 then Char.ofNat (97 + n) else Char.ofNat (22 + n)

/-- A number in digits of variable weight, the least digit first. -/
def numberDigits (bias k q : Nat) : List Char :=
  let t := threshold k bias
  if q < t then [basicDigit q]
  else basicDigit (t + (q - t) % (36 - t)) :: numberDigits bias (k + 36) ((q - t) / (36 - t))
termination_by q
decreasing_by
  have := threshold_pos k bias
  exact Nat.lt_of_le_of_lt (Nat.div_le_self _ _) (by omega)

/-- The Punycode digits of a label, from the state behind the characters below `n`. -/
def punycodeDigits (label : List Nat) (basic : Nat) :
    (fuel : Nat) → (n delta bias handled : Nat) → List Char
  | 0, _, _, _, _ => []
  | fuel + 1, n, delta, bias, handled =>
    match (label.filter (n ≤ ·)).min? with
    | none => []
    | some m =>
      let delta := delta + (m - n) * (handled + 1)
      let (out, delta, bias, handled) := label.foldl
        (fun (state : List Char × Nat × Nat × Nat) c =>
          let (out, delta, bias, handled) := state
          if c < m then (out, delta + 1, bias, handled)
          else if c = m then
            (out ++ numberDigits bias 36 delta, 0,
              adaptBias delta (handled + 1) (handled == basic), handled + 1)
          else state)
        ([], delta, bias, handled)
      out ++ punycodeDigits label basic fuel (m + 1) (delta + 1) bias handled

/-- A label in ASCII. -/
def encode (label : List Char) : List Char :=
  let ascii := label.filter fun c => c.toNat < 128
  ascii ++ (if ascii.isEmpty then [] else ['-']) ++
    punycodeDigits (label.map Char.toNat) ascii.length (label.length + 1) 128 0 72 ascii.length

private def digitValue? (c : Char) : Option Nat :=
  if 'a' ≤ c && c ≤ 'z' then some (c.toNat - 97)
  else if Text.isDigit c then some (c.toNat - 22)
  else none

/-- Reads a number in digits of variable weight. -/
def readNumber? (bias : Nat) : (k weight sum : Nat) → List Char → Option (Nat × List Char)
  | _, _, _, [] => none
  | k, weight, sum, c :: rest =>
    match digitValue? c with
    | none => none
    | some d =>
      let t := threshold k bias
      let sum := sum + d * weight
      if d < t then some (sum, rest) else readNumber? bias (k + 36) (weight * (36 - t)) sum rest

/-- Puts the characters that digits name into a label. -/
def insertAll? : (fuel : Nat) → (n place bias : Nat) → (label digits : List Char) →
    Option (List Char)
  | _, _, _, _, label, [] => some label
  | 0, _, _, _, _, _ :: _ => none
  | fuel + 1, n, place, bias, label, digits =>
    match readNumber? bias 36 1 place digits with
    | none => none
    | some (sum, rest) =>
      let points := label.length + 1
      let code := n + sum / points
      let spot := sum % points
      if 0x110000 ≤ code || (0xD800 ≤ code && code < 0xE000) then none
      else
        insertAll? fuel code (spot + 1) (adaptBias (sum - place) points (place == 0))
          (label.take spot ++ [Char.ofNat code] ++ label.drop spot) rest

/-- The label that is written so. -/
def decode? (s : List Char) : Option (List Char) :=
  let digits := (s.reverse.takeWhile (· != '-')).reverse
  let ascii := (s.take (s.length - digits.length)).dropLast
  insertAll? digits.length 128 0 72 ascii digits

end DeploySync.Url.Punycode
