import DeploySync.Text.Split
import Mathlib.Algebra.Group.Nat.Defs

/-!
# Hexadecimal digits read back

## Main definitions

* `Text.Spells` — hexadecimal digits spell a number

## Main results

* `Text.spells_hexUpper` — a number is spelled by its digits, filled with zeros
* `Text.length_hexUpper` — there are as many digits as asked for, if the number fits
-/

namespace DeploySync.Text

variable {digits more : List Char} {n d width : Nat} {c : Char}

/-- Hexadecimal digits spell a number, the highest one first. -/
def Spells (digits : List Char) (n : Nat) : Prop :=
  ∃ values, digits.mapM hexValue? = some values ∧ values.foldl (fun n d => 16 * n + d) 0 = n

theorem spells_nil : Spells [] 0 := ⟨[], rfl, rfl⟩

/-- One more digit behind the others. -/
theorem Spells.concat (h : Spells digits n) (hc : hexValue? c = some d) :
    Spells (digits ++ [c]) (16 * n + d) := by
  obtain ⟨values, hvalues, hn⟩ := h
  refine ⟨values ++ [d], ?_, ?_⟩
  · rw [List.mapM_append, hvalues, List.mapM_cons, hc, List.mapM_nil]
    rfl
  · rw [List.foldl_append, hn]
    rfl

/-- Zeros in front do not matter. -/
theorem Spells.zeros (h : Spells digits n) (k : Nat) :
    Spells (List.replicate k '0' ++ digits) n := by
  obtain ⟨values, hvalues, hn⟩ := h
  induction k with
  | zero => exact ⟨values, hvalues, hn⟩
  | succ k ih =>
    obtain ⟨values', hvalues', hn'⟩ := ih
    refine ⟨0 :: values', ?_, hn'⟩
    rw [List.replicate_succ, List.cons_append, List.mapM_cons, hvalues']
    rfl

/-- What spells a number are digits. -/
theorem Spells.hexValue? (h : Spells digits n) : ∀ c ∈ digits, (Text.hexValue? c).isSome := by
  obtain ⟨values, hvalues, -⟩ := h
  induction digits generalizing values with
  | nil => simp
  | cons c digits ih =>
    rw [List.mapM_cons, Option.bind_eq_bind, Option.bind_eq_some_iff] at hvalues
    obtain ⟨value, hc, hmore⟩ := hvalues
    rw [Option.bind_eq_bind, Option.bind_eq_some_iff] at hmore
    obtain ⟨values, hvalues, -⟩ := hmore
    rw [List.forall_mem_cons, hc]
    exact ⟨rfl, ih values hvalues⟩

theorem hexValue?_digitChar (h : d < 16) : hexValue? d.digitChar.toUpper = some d := by
  have hall : ∀ d : Fin 16, hexValue? d.val.digitChar.toUpper = some d.val := by decide
  exact hall ⟨d, h⟩

theorem hexValue?_hexDigit (h : d < 16) : hexValue? (hexDigit d) = some d := by
  have hall : ∀ d : Fin 16, hexValue? (hexDigit d.val) = some d.val := by decide
  exact hall ⟨d, h⟩

/-- A number is spelled by its digits. -/
theorem spells_toDigits (n : Nat) : Spells ((Nat.toDigits 16 n).map Char.toUpper) n := by
  induction n using Nat.strongRecOn with
  | ind n ih =>
    by_cases hn : n < 16
    · rw [Nat.toDigits_of_lt_base hn]
      simpa using spells_nil.concat (hexValue?_digitChar hn)
    · rw [Nat.toDigits_of_base_le (by decide) (by omega), List.map_append]
      have hmore := (ih (n / 16) (by omega)).concat (hexValue?_digitChar (d := n % 16) (by omega))
      rwa [Nat.div_add_mod] at hmore

/-- A number is spelled by its digits, filled with zeros to any width. -/
theorem spells_hexUpper (width n : Nat) : Spells (hexUpper width n) n :=
  (spells_toDigits n).zeros _

/-- There are as many digits as asked for. -/
theorem length_hexUpper (hwidth : 0 < width) (hn : n < 16 ^ width) :
    (hexUpper width n).length = width := by
  have hlength := (Nat.length_toDigits_le_iff (by decide) hwidth).2 hn
  rw [hexUpper, List.length_append, List.length_replicate, List.length_map]
  omega

end DeploySync.Text
