import DeploySync.Yaml.Number

/-!
# The characters of numbers

## Main definitions

* `Yaml.isNumberChar`, `Yaml.isNumberHead` — the characters in numbers, and in front of them
* `Yaml.IsNumberText` — such a character in front, and only such characters

## Main results

* `Yaml.Number.isNumberText` — every number is written so
-/

namespace DeploySync.Yaml

variable {s t : List Char}

/-- Numbers are made of letters, digits, signs and points. -/
def isNumberChar (c : Char) : Bool := c.isAlphanum || c == '+' || c == '-' || c == '.'

/-- The characters in front of a number. -/
def isNumberHead (c : Char) : Bool := c.isDigit || c == '-' || c == '.'

/-- The text is made of characters of numbers, with one in front that a number can start with. -/
structure IsNumberText (s : List Char) : Prop where
  head : ∃ c, s.head? = some c ∧ isNumberHead c
  chars : ∀ c ∈ s, isNumberChar c

theorem isNumberChar_of_isDigit {c : Char} (h : c.isDigit) : isNumberChar c := by
  simp [isNumberChar, Char.isAlphanum, h]

theorem isNumberText_toDigits (n : Nat) : IsNumberText (Nat.toDigits 10 n) := by
  have hdigit (c : Char) (hc : c ∈ Nat.toDigits 10 n) : c.isDigit :=
    Nat.isDigit_of_mem_toDigits (by decide) (by decide) hc
  refine ⟨?_, fun c hc => isNumberChar_of_isDigit (hdigit c hc)⟩
  obtain ⟨c, rest, hdigits⟩ := List.exists_cons_of_ne_nil (Nat.toDigits_ne_nil (n := n) (b := 10))
  refine ⟨c, by rw [hdigits]; rfl, ?_⟩
  have hc := hdigit c (by rw [hdigits]; exact List.mem_cons_self)
  simp [isNumberHead, hc]

namespace IsNumberText

theorem ne_nil (h : IsNumberText s) : s ≠ [] := by
  rintro rfl
  obtain ⟨c, hc, -⟩ := h.head
  cases hc

/-- More characters of numbers may follow. -/
theorem append (h : IsNumberText s) (ht : ∀ c ∈ t, isNumberChar c) : IsNumberText (s ++ t) := by
  refine ⟨?_, ?_⟩
  · obtain ⟨c, hc, hhead⟩ := h.head
    exact ⟨c, by rw [List.head?_append, hc]; rfl, hhead⟩
  · intro c hc
    exact (List.mem_append.1 hc).elim (h.chars c) (ht c)

theorem take (h : IsNumberText s) {n : Nat} (hn : 0 < n) : IsNumberText (s.take n) := by
  refine ⟨?_, fun c hc => h.chars c (List.mem_of_mem_take hc)⟩
  rw [List.head?_take, if_neg (by omega)]
  exact h.head

/-- A sign may stand in front. -/
theorem signed (h : IsNumberText s) (negative : Bool) :
    IsNumberText ((if negative then ['-'] else []) ++ s) := by
  cases negative with
  | false => exact h
  | true => exact ⟨⟨'-', rfl, rfl⟩, List.forall_mem_cons.2 ⟨rfl, h.chars⟩⟩

theorem zeros (n : Nat) : ∀ c ∈ List.replicate n '0', isNumberChar c := by
  intro c hc
  rw [List.eq_of_mem_replicate hc]
  rfl

theorem placed (h : IsNumberText s) (power : Int) : IsNumberText (Double.placed s power) := by
  have hplaced : Double.placed s power =
      if 0 ≤ power then s ++ List.replicate power.toNat '0' ++ ['.', '0']
      else if (-power).toNat < s.length then
        s.take (s.length - (-power).toNat) ++ '.' :: s.drop (s.length - (-power).toNat)
      else ['0', '.'] ++ List.replicate ((-power).toNat - s.length) '0' ++ s := rfl
  rw [hplaced]
  split
  · exact (h.append (zeros _)).append (List.all_eq_true.1 rfl)
  · split
    · refine (h.take (by omega)).append (List.forall_mem_cons.2 ⟨rfl, fun c hc => ?_⟩)
      exact h.chars c (List.mem_of_mem_drop hc)
    · have hzero : IsNumberText ['0', '.'] := ⟨⟨'0', rfl, rfl⟩, List.all_eq_true.1 rfl⟩
      exact (hzero.append (zeros _)).append h.chars

theorem scientific (h : IsNumberText s) (f : Double.Format) (power : Int) :
    IsNumberText (Double.scientific f s power) := by
  obtain ⟨mantissa, sign, width, hmantissa, hsign, hscientific⟩ : ∃ mantissa sign width,
      IsNumberText mantissa ∧ (∀ c ∈ sign, isNumberChar c) ∧
        Double.scientific f s power =
          mantissa ++ 'e' :: sign ++ List.replicate width '0' ++
            Nat.toDigits 10 (power + s.length - 1).natAbs := by
    refine ⟨_, _, _, ?_, ?_, rfl⟩
    · rcases s with _ | ⟨d, _ | ⟨d', more⟩⟩
      · exact absurd rfl h.ne_nil
      · exact h
      · refine ⟨h.head, ?_⟩
        have hchars := h.chars
        rw [List.forall_mem_cons] at hchars ⊢
        exact ⟨hchars.1, List.forall_mem_cons.2 ⟨rfl, hchars.2⟩⟩
    · split
      · exact List.all_eq_true.1 rfl
      · split <;> exact List.all_eq_true.1 rfl
  rw [hscientific]
  refine ((hmantissa.append ?_).append (zeros width)).append (isNumberText_toDigits _).chars
  exact List.forall_mem_cons.2 ⟨rfl, hsign⟩

end IsNumberText

theorem isNumberText_double (f : Double.Format) (d : Double) : IsNumberText (Double.text f d) := by
  have hdigits := isNumberText_toDigits d.shortest.1
  rw [Double.text]
  split
  · exact IsNumberText.signed ⟨⟨'0', rfl, rfl⟩, List.all_eq_true.1 rfl⟩ d.isNegative
  · dsimp only
    split
    · exact (hdigits.placed _).signed d.isNegative
    · exact (hdigits.scientific f _).signed d.isNegative

/-- Every number is written with characters of numbers. -/
theorem Number.isNumberText (n : Number) : IsNumberText n.text := by
  cases n with
  | whole n =>
    rw [text, wholeText]
    split
    · exact (isNumberText_toDigits n.natAbs).signed true
    · exact isNumberText_toDigits n.natAbs
  | double d =>
    rw [text, doubleText]
    split
    · exact ⟨⟨'.', rfl, rfl⟩, List.all_eq_true.1 rfl⟩
    · split
      · split
        · exact ⟨⟨'-', rfl, rfl⟩, List.all_eq_true.1 rfl⟩
        · exact ⟨⟨'.', rfl, rfl⟩, List.all_eq_true.1 rfl⟩
      · exact isNumberText_double doubleFormat d

end DeploySync.Yaml
