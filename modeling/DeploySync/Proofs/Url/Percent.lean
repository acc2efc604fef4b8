import DeploySync.Bytes
import DeploySync.Proofs.Text.Hex
import DeploySync.Url.Percent

/-!
# Percent and form encoding undone

Both encodings escape the characters that they read in a special way themselves, so that decoding
gives every text back, whatever else is escaped.

## Main definitions

* `Url.decoded?` — the text that a percent-encoded text spells
* `Url.formDecoded` — the text that a form-encoded text spells

## Main results

* `Url.decoded?_encodeWith` — percent encoding is undone if the percent sign is escaped
* `Url.formDecoded_formEncode` — the form encoding is undone
* `Url.notMem_formEncode` — what separates parameters is escaped in them
-/

namespace DeploySync.Url

variable {escaped : Char → Bool} {s : List Char} {c sep : Char}

/-- The text that a percent-encoded text spells. -/
def decoded? (s : List Char) : Option String := Bytes.text? (percentDecode s).toByteArray

/-- The text that a form-encoded text spells, with replacement characters for bytes that are no
text. -/
def formDecoded (s : List Char) : String := Bytes.lossyText (formDecode s).toByteArray

/-! ### Percent encoding -/

/-- An escaped byte is read as that byte. -/
theorem percentDecode_escapeByte (b : UInt8) (t : List Char) :
    percentDecode (escapeByte b ++ t) = b :: percentDecode t := by
  have hb : b.toNat < 256 := b.toNat_lt
  have hhigh : Text.hexValue? (Text.hexDigit (b.toNat / 16)) = some (b.toNat / 16) :=
    Text.hexValue?_hexDigit (by omega)
  have hlow : Text.hexValue? (Text.hexDigit (b.toNat % 16)) = some (b.toNat % 16) :=
    Text.hexValue?_hexDigit (by omega)
  rw [escapeByte, List.cons_append, List.cons_append, List.singleton_append, percentDecode]
  simp only [hhigh, hlow, Nat.div_add_mod, UInt8.ofNat_toNat]

theorem percentDecode_escapeChar (c : Char) (t : List Char) :
    percentDecode (escapeChar c ++ t) = String.utf8EncodeChar c ++ percentDecode t := by
  rw [escapeChar]
  induction String.utf8EncodeChar c with
  | nil => rfl
  | cons b bytes ih =>
    rw [List.flatMap_cons, List.append_assoc, percentDecode_escapeByte, ih]
    rfl

/-- Any character but the percent sign stands for itself. -/
theorem percentDecode_cons (hc : c ≠ '%') (t : List Char) :
    percentDecode (c :: t) = String.utf8EncodeChar c ++ percentDecode t := by
  rw [percentDecode]
  rintro a b rest heq -
  exact hc heq

/-- What is read of a text with escapes are the bytes of the text. -/
theorem percentDecode_encodeWith (hpercent : escaped '%') (s : List Char) :
    percentDecode (encodeWith escaped s) = s.flatMap String.utf8EncodeChar := by
  induction s with
  | nil => rfl
  | cons c s ih =>
    have hcons : encodeWith escaped (c :: s) =
        (if escaped c then escapeChar c else [c]) ++ encodeWith escaped s := rfl
    rw [hcons, List.flatMap_cons, ← ih]
    by_cases hc : escaped c
    · rw [if_pos hc, percentDecode_escapeChar]
    · rw [if_neg hc, List.singleton_append, percentDecode_cons]
      rintro rfl
      exact hc hpercent

/-- Percent encoding is undone if the percent sign is escaped. -/
theorem decoded?_encodeWith (hpercent : escaped '%') (s : List Char) :
    decoded? (encodeWith escaped s) = some (String.ofList s) := by
  rw [decoded?, percentDecode_encodeWith hpercent]
  exact Bytes.text?_ofText (String.ofList s)

/-- A text without characters to escape stays. -/
theorem encodeWith_eq_self (hs : ∀ c ∈ s, escaped c = false) : encodeWith escaped s = s := by
  induction s with
  | nil => rfl
  | cons c s ih =>
    rw [List.forall_mem_cons] at hs
    have hcons : encodeWith escaped (c :: s) =
        (if escaped c then escapeChar c else [c]) ++ encodeWith escaped s := rfl
    rw [hcons, ih hs.2, hs.1]
    rfl

/-- Escapes are made of percent signs and hexadecimal digits. -/
theorem notMem_escapeChar (hpercent : sep ≠ '%') (hdigit : Text.hexValue? sep = none) (c : Char) :
    sep ∉ escapeChar c := by
  intro hmem
  obtain ⟨b, -, hb⟩ := List.mem_flatMap.1 hmem
  have hlt : b.toNat < 256 := b.toNat_lt
  have hdigits (n : Nat) (hn : n < 16) : sep ≠ Text.hexDigit n := by
    rintro rfl
    rw [Text.hexValue?_hexDigit hn] at hdigit
    cases hdigit
  simp only [escapeByte, List.mem_cons, List.not_mem_nil, or_false] at hb
  rcases hb with hb | hb | hb
  · exact hpercent hb
  · exact hdigits _ (by omega) hb
  · exact hdigits _ (by omega) hb

/-! ### The form encoding -/

/-- How a character is written in the form encoding. -/
def formChar (c : Char) : List Char :=
  if c == ' ' then ['+'] else if isFormSafe c then [c] else escapeChar c

theorem formEncode_cons (c : Char) (s : List Char) :
    formEncode (c :: s) = formChar c ++ formEncode s := rfl

/-- A character that the form encoding keeps is no plus and no percent sign. -/
theorem formDecode_formChar (c : Char) (s : List Char) :
    formDecode (formChar c ++ s) = String.utf8EncodeChar c ++ formDecode s := by
  rw [formChar, formDecode, List.map_append]
  by_cases hspace : c == ' '
  · -- the plus sign is turned back into a space before the escapes are read
    obtain rfl := eq_of_beq hspace
    exact percentDecode_cons (by decide) _
  · rw [if_neg hspace]
    by_cases hsafe : isFormSafe c
    · -- neither the plus nor the percent sign is safe
      have hplus : (c == '+') = false := by
        rw [beq_eq_false_iff_ne]
        rintro rfl
        cases hsafe
      have hpercent : c ≠ '%' := by
        rintro rfl
        cases hsafe
      rw [if_pos hsafe, List.map_singleton, hplus]
      exact percentDecode_cons hpercent _
    · -- an escape has no plus sign that could be turned into a space
      rw [if_neg hsafe, List.map_congr_left (g := id), List.map_id, percentDecode_escapeChar]
      · rfl
      · intro d hd
        have hplus : d ≠ '+' := by
          rintro rfl
          exact notMem_escapeChar (by decide) (by decide) c hd
        rw [if_neg (by simpa using hplus)]
        rfl

/-- The form encoding is undone. -/
theorem formDecoded_formEncode (s : List Char) : formDecoded (formEncode s) = String.ofList s := by
  have hdecode : formDecode (formEncode s) = s.flatMap String.utf8EncodeChar := by
    induction s with
    | nil => rfl
    | cons c s ih => rw [formEncode_cons, formDecode_formChar, ih, List.flatMap_cons]
  rw [formDecoded, hdecode]
  exact Bytes.lossyText_ofText (String.ofList s)

/-- What separates parameters is escaped in them. -/
theorem notMem_formEncode (hplus : sep ≠ '+') (hpercent : sep ≠ '%')
    (hdigit : Text.hexValue? sep = none) (hsafe : isFormSafe sep = false) (s : List Char) :
    sep ∉ formEncode s := by
  intro hmem
  obtain ⟨c, -, hc⟩ := List.mem_flatMap.1 hmem
  by_cases hspace : c == ' '
  · rw [if_pos hspace] at hc
    exact hplus (List.mem_singleton.1 hc)
  · rw [if_neg hspace] at hc
    by_cases hkept : isFormSafe c
    · rw [if_pos hkept] at hc
      obtain rfl := List.mem_singleton.1 hc
      rw [hsafe] at hkept
      cases hkept
    · rw [if_neg hkept] at hc
      exact notMem_escapeChar hpercent hdigit c hc

end DeploySync.Url
