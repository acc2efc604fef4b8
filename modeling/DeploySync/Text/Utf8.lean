/-!
# Bytes read as UTF-8

Command output and pages are bytes. Read strictly they are a text or the place of the first byte
that is not part of a well-formed sequence; read leniently every maximal start of a sequence that
goes wrong becomes one replacement character.

## Main definitions

* `Text.Utf8.Fault` — where strict reading stops, and how many bytes are at fault
* `Text.Utf8.firstFault?` — the first fault of a byte list
* `Text.Utf8.lossy` — lenient reading
-/

namespace DeploySync.Text.Utf8

/-- Strict reading stops after `validUpTo` bytes. `length` is the number of bytes that form no
character, or nothing when the bytes end inside a sequence. -/
structure Fault where
  validUpTo : Nat
  length : Option Nat
  deriving DecidableEq, Repr

/-- The wording of a fault. -/
def Fault.message (f : Fault) : String :=
  match f.length with
  | some n => s!"invalid utf-8 sequence of {n} bytes from index {f.validUpTo}"
  | none => s!"incomplete utf-8 byte sequence from index {f.validUpTo}"

/-- What stands at the start of a byte list. -/
inductive Step where
  /-- A well-formed character. -/
  | char (c : Char)
  /-- This many bytes, at least one, start no character. -/
  | bad (length : Nat)
  /-- The bytes end inside a sequence of this many bytes so far. -/
  | cut (length : Nat)

private def isContinuation (b : UInt8) : Bool := 0x80 ≤ b && b ≤ 0xBF

private def continuationBits (b : UInt8) : Nat := b.toNat - 0x80

/-- The bytes that may follow a leading byte: narrower than a continuation byte where a sequence
would be too long, a surrogate, or beyond the last character. -/
private def isSecond (lead b : UInt8) : Bool :=
  if lead == 0xE0 then 0xA0 ≤ b && b ≤ 0xBF
  else if lead == 0xED then 0x80 ≤ b && b ≤ 0x9F
  else if lead == 0xF0 then 0x90 ≤ b && b ≤ 0xBF
  else if lead == 0xF4 then 0x80 ≤ b && b ≤ 0x8F
  else isContinuation b

/-- Reads one character behind its leading byte, and the number of bytes it takes. -/
def step (lead : UInt8) (rest : List UInt8) : Step × Nat :=
  let a := lead.toNat
  if a < 0x80 then (.char (Char.ofNat a), 1)
  else if a < 0xC2 || 0xF4 < a then (.bad 1, 1)
  else
    match rest with
    | [] => (.cut 1, 1)
    | b :: rest =>
      if ! isSecond lead b then (.bad 1, 1)
      else if a < 0xE0 then (.char (Char.ofNat ((a - 0xC0) * 64 + continuationBits b)), 2)
      else
        match rest with
        | [] => (.cut 2, 2)
        | c :: rest =>
          if ! isContinuation c then (.bad 2, 2)
          else if a < 0xF0 then
            (.char (Char.ofNat ((a - 0xE0) * 4096 + continuationBits b * 64 +
              continuationBits c)), 3)
          else
            match rest with
            | [] => (.cut 3, 3)
            | d :: _ =>
              if ! isContinuation d then (.bad 3, 3)
              else
                (.char (Char.ofNat ((a - 0xF0) * 262144 + continuationBits b * 4096 +
                  continuationBits c * 64 + continuationBits d)), 4)

/-- The first fault of a byte list that starts at byte `at_` of the whole. -/
def firstFaultFrom (start : Nat) : List UInt8 → Option Fault
  | [] => none
  | lead :: rest =>
    match step lead rest with
    | (.char _, n) => firstFaultFrom (start + n) (rest.drop (n - 1))
    | (.bad n, _) => some ⟨start, some n⟩
    | (.cut _, _) => some ⟨start, none⟩
  termination_by bytes => bytes.length
  decreasing_by simp only [List.length_drop, List.length_cons]; omega

/-- The first fault of a byte list, if it is not well-formed. -/
def firstFault? (bytes : List UInt8) : Option Fault :=
  firstFaultFrom 0 bytes

/-- Reads bytes as text, with U+FFFD for every maximal start of a sequence that goes wrong. -/
def lossy : List UInt8 → List Char
  | [] => []
  | lead :: rest =>
    match step lead rest with
    | (.char c, n) => c :: lossy (rest.drop (n - 1))
    | (_, n) => '\uFFFD' :: lossy (rest.drop (n - 1))
  termination_by bytes => bytes.length
  decreasing_by all_goals simp only [List.length_drop, List.length_cons]; omega

end DeploySync.Text.Utf8
