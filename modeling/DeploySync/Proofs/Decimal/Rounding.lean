import DeploySync.Decimal.Double
import Mathlib.Algebra.Order.Field.Power
import Mathlib.Data.Rat.Cast.Order
import Mathlib.Tactic.Linarith
import Mathlib.Tactic.NormNum
import Mathlib.Tactic.Positivity
import Mathlib.Tactic.Ring

/-!
# Rounding to doubles

A fraction is rounded to the double in whose interval it lies. The intervals are around the doubles,
half a unit to each side, and only a quarter below a power of two, where the unit is half as large.
A double with an even significand has the ends of its interval, too.

## Main definitions

* `Double.IsNearest` — a value is nearest to a whole number, ties to the even one
* `Double.IsMagnitude`, `Double.ofMagnitude` — significands with exponents, and their doubles
* `Double.RoundsTo` — a value is in the interval of a double

## Main results

* `Double.roundQuotient_eq`, `Double.floorLog2_spec` — quotients and their orders of magnitude
* `Double.ofFraction_eq`, `Double.ofDecimal_eq` — fractions and decimals are rounded to the double
  in whose interval they are
* `Double.withSign_ofMagnitude` — a double is made of its sign and its magnitude
-/

namespace DeploySync.Double

variable {m num den : Nat} {e k : Int} {x : ℚ} {d : Double}

/-- A power with a whole exponent is a quotient of two powers. -/
theorem zpow_eq_div {b : ℚ} (hb : b ≠ 0) (e : Int) : b ^ e = b ^ e.toNat / b ^ (-e).toNat := by
  rw [← zpow_natCast, ← zpow_natCast, ← zpow_sub₀ hb]
  congr 1
  omega

/-! ### Quotients -/

/-- The value is nearest to a whole number, to an odd one only if it is no tie. -/
structure IsNearest (m : Nat) (x : ℚ) : Prop where
  low : m - 1 / 2 ≤ x
  high : x ≤ m + 1 / 2
  odd : m % 2 = 1 → m - 1 / 2 < x ∧ x < m + 1 / 2

/-- A quotient is rounded to the nearest whole number. -/
theorem roundQuotient_eq (hden : 0 < den) (h : IsNearest m (num / den)) :
    roundQuotient num den = m := by
  have hpos : (0 : ℚ) < den := by exact_mod_cast hden
  obtain ⟨hlow, hhigh, hodd⟩ := h
  rw [le_div_iff₀ hpos] at hlow
  rw [div_le_iff₀ hpos] at hhigh
  rw [lt_div_iff₀ hpos, div_lt_iff₀ hpos] at hodd
  -- the same on whole numbers
  have hlow : (2 * m * den : ℚ) ≤ 2 * num + den := by linarith
  have hhigh : (2 * num : ℚ) ≤ 2 * m * den + den := by linarith
  have hodd (hm : m % 2 = 1) : (2 * m * den : ℚ) < 2 * num + den ∧
      (2 * num : ℚ) < 2 * m * den + den := by
    obtain ⟨h1, h2⟩ := hodd hm
    exact ⟨by linarith, by linarith⟩
  norm_cast at hlow hhigh hodd
  have hdiv := Nat.div_add_mod num den
  have hlt := Nat.mod_lt num hden
  rw [roundQuotient]
  generalize num / den = q at *
  generalize num % den = r at *
  have hle : q ≤ m := by
    by_contra hgt
    have : (2 * m + 2) * den ≤ 2 * q * den := Nat.mul_le_mul_right _ (by omega)
    nlinarith
  have hge : m ≤ q + 1 := by
    by_contra hgt
    have : (2 * q + 4) * den ≤ 2 * m * den := Nat.mul_le_mul_right _ (by omega)
    nlinarith
  obtain rfl | rfl : m = q ∨ m = q + 1 := by omega
  · have hr : 2 * r ≤ den := by nlinarith
    have hr' (hm : m % 2 = 1) : 2 * r < den := by nlinarith [hodd hm]
    split
    · rfl
    · split <;> omega
  · have hr : den ≤ 2 * r := by nlinarith
    have hr' (hm : (q + 1) % 2 = 1) : den < 2 * r := by nlinarith [hodd hm]
    split
    · omega
    · split <;> omega

/-! ### Orders of magnitude -/

/-- Whether a fraction reaches a power is decided on whole numbers. -/
theorem reaches_iff {b : Nat} (hb : 0 < b) (num : Nat) (hden : 0 < den) (k : Int) :
    (if 0 ≤ k then decide (den * b ^ k.toNat ≤ num)
      else decide (den ≤ num * b ^ (-k).toNat)) = true ↔ (b : ℚ) ^ k ≤ num / den := by
  have hpos : (0 : ℚ) < den := by exact_mod_cast hden
  have hpow : (0 : ℚ) < (b : ℚ) ^ (-k).toNat := by positivity
  rw [zpow_eq_div (Nat.cast_ne_zero.2 hb.ne'), le_div_iff₀ hpos, div_mul_eq_mul_div,
    div_le_iff₀ hpow]
  split
  · next hk =>
    obtain hzero : (-k).toNat = 0 := by omega
    rw [hzero, pow_zero, mul_one, decide_eq_true_iff, mul_comm den]
    exact_mod_cast Iff.rfl
  · next hk =>
    obtain hzero : k.toNat = 0 := by omega
    rw [hzero, pow_zero, one_mul, decide_eq_true_iff]
    exact_mod_cast Iff.rfl

/-- Numbers of so many digits have a quotient between two powers. -/
theorem quotient_bounds {b i j : Nat} (hb : 1 < b) (hnum : b ^ i ≤ num) (hnum' : num < b ^ (i + 1))
    (hden : b ^ j ≤ den) (hden' : den < b ^ (j + 1)) :
    (b : ℚ) ^ ((i : Int) - j - 1) < num / den ∧
      (num / den : ℚ) < (b : ℚ) ^ ((i : Int) - j + 1) := by
  have hb0 : (0 : ℚ) < b := by exact_mod_cast (by omega : 0 < b)
  have hpos : (0 : ℚ) < den := by exact_mod_cast (Nat.pow_pos (by omega)).trans_le hden
  constructor
  · rw [lt_div_iff₀ hpos]
    calc (b : ℚ) ^ ((i : Int) - j - 1) * den
        < (b : ℚ) ^ ((i : Int) - j - 1) * (b : ℚ) ^ (j + 1) := by
          gcongr
          exact_mod_cast hden'
      _ = (b : ℚ) ^ i := by
          rw [← zpow_natCast, ← zpow_natCast, ← zpow_add₀ hb0.ne']
          congr 1
          push_cast
          ring
      _ ≤ num := by exact_mod_cast hnum
  · rw [div_lt_iff₀ hpos]
    calc (num : ℚ) < (b : ℚ) ^ (i + 1) := by exact_mod_cast hnum'
      _ = (b : ℚ) ^ ((i : Int) - j + 1) * (b : ℚ) ^ j := by
          rw [← zpow_natCast, ← zpow_natCast, ← zpow_add₀ hb0.ne']
          congr 1
          push_cast
          ring
      _ ≤ (b : ℚ) ^ ((i : Int) - j + 1) * den := by
          gcongr
          exact_mod_cast hden

/-- A fraction is between two neighbouring powers of two. -/
theorem floorLog2_spec (hnum : 0 < num) (hden : 0 < den) :
    (2 : ℚ) ^ floorLog2 num den ≤ num / den ∧ (num / den : ℚ) < 2 ^ (floorLog2 num den + 1) := by
  have hbits {n : Nat} (hn : 0 < n) : (bitLength n : Int) = n.log2 + 1 := by
    rw [bitLength, if_neg hn.ne']
    rfl
  have hlog {n : Nat} (hn : 0 < n) : 2 ^ n.log2 ≤ n ∧ n < 2 ^ (n.log2 + 1) :=
    ⟨Nat.log2_self_le hn.ne', Nat.lt_log2_self⟩
  obtain ⟨hbelow, habove⟩ := quotient_bounds (b := 2) (by decide) (hlog hnum).1 (hlog hnum).2
    (hlog hden).1 (hlog hden).2
  have hreaches := reaches_iff (b := 2) (by decide) num hden (num.log2 - den.log2)
  rw [Nat.cast_ofNat] at hbelow habove hreaches
  have hk : (bitLength num : Int) - bitLength den = num.log2 - den.log2 := by
    rw [hbits hnum, hbits hden]
    ring
  -- the difference of the numbers of bits is the logarithm, or one too many
  by_cases hreach : (2 : ℚ) ^ ((num.log2 : Int) - den.log2) ≤ num / den
  · have hfloor : floorLog2 num den = num.log2 - den.log2 := by
      rw [floorLog2, hk]
      exact if_pos (hreaches.2 hreach)
    rw [hfloor]
    exact ⟨hreach, habove⟩
  · have hfloor : floorLog2 num den = num.log2 - den.log2 - 1 := by
      rw [floorLog2, hk]
      exact if_neg (mt hreaches.1 hreach)
    rw [hfloor, sub_add_cancel]
    exact ⟨hbelow.le, not_le.1 hreach⟩

theorem lt_of_zpow_lt {a b : Int} (h : (2 : ℚ) ^ a < 2 ^ b) : a < b :=
  (zpow_lt_zpow_iff_right₀ (by norm_num)).1 h

theorem floorLog2_eq (hnum : 0 < num) (hden : 0 < den) (hlow : (2 : ℚ) ^ k ≤ num / den)
    (hhigh : (num / den : ℚ) < 2 ^ (k + 1)) : floorLog2 num den = k := by
  obtain ⟨hlow', hhigh'⟩ := floorLog2_spec hnum hden
  have h1 := lt_of_zpow_lt (hlow.trans_lt hhigh')
  have h2 := lt_of_zpow_lt (hlow'.trans_lt hhigh)
  omega

theorem pow_mul_zpow (k : Nat) (e : Int) : (2 : ℚ) ^ k * 2 ^ e = 2 ^ ((k : Int) + e) := by
  rw [zpow_add₀ (by norm_num), zpow_natCast]

/-- The order of magnitude of a fraction in units of a power of two. -/
theorem floorLog2_eq_add (hnum : 0 < num) (hden : 0 < den) (k : Nat)
    (hlow : (2 : ℚ) ^ k * 2 ^ e ≤ num / den) (hhigh : (num / den : ℚ) < 2 ^ (k + 1) * 2 ^ e) :
    floorLog2 num den = k + e := by
  rw [pow_mul_zpow] at hlow hhigh
  rw [Nat.cast_succ, add_right_comm] at hhigh
  exact floorLog2_eq hnum hden hlow hhigh

/-- A quotient is rounded at a power of two. -/
theorem roundQuotient_scaled (hden : 0 < den) (h : IsNearest m (num / den / 2 ^ e)) :
    (if 0 ≤ e then roundQuotient num (den * Nat.pow 2 e.toNat)
      else roundQuotient (num * Nat.pow 2 (-e).toNat) den) = m := by
  have hscale : (num / den / 2 ^ e : ℚ) = num * 2 ^ (-e).toNat / (den * 2 ^ e.toNat) := by
    rw [zpow_eq_div two_ne_zero, div_div_eq_mul_div, div_mul_eq_mul_div, div_div]
  rw [hscale] at h
  split
  · next he =>
    obtain hzero : (-e).toNat = 0 := by omega
    rw [hzero, pow_zero, mul_one] at h
    refine roundQuotient_eq (Nat.mul_pos hden (Nat.pow_pos (by decide))) ?_
    exact_mod_cast h
  · next he =>
    obtain hzero : e.toNat = 0 := by omega
    rw [hzero, pow_zero, mul_one] at h
    refine roundQuotient_eq hden ?_
    exact_mod_cast h

/-! ### Magnitudes -/

/-- The significand and the exponent of a double. -/
structure IsMagnitude (m : Nat) (e : Int) : Prop where
  lt : m < 2 ^ 53
  norm : 2 ^ 52 ≤ m ∨ e = -1074
  ge : -1074 ≤ e
  le : e ≤ 971

/-- The double of a significand and an exponent, without a sign. -/
def ofMagnitude (m : Nat) (e : Int) : Double :=
  if m < Nat.pow 2 52 then ⟨UInt64.ofNat m⟩
  else ⟨UInt64.ofNat ((e + 1075).toNat * Nat.pow 2 52 + (m - Nat.pow 2 52))⟩

/-- The lower end of the values that are rounded to a double. Below a power of two the doubles are
twice as dense. -/
def lower (m : Nat) (e : Int) : ℚ :=
  (if m = 2 ^ 52 ∧ -1074 < e then (m : ℚ) - 1 / 4 else m - 1 / 2) * 2 ^ e

/-- The value is rounded to a double. -/
structure RoundsTo (m : Nat) (e : Int) (x : ℚ) : Prop where
  low : lower m e ≤ x
  high : x ≤ (m + 1 / 2) * 2 ^ e
  odd : m % 2 = 1 → lower m e < x ∧ x < (m + 1 / 2) * 2 ^ e

theorem lower_le (m : Nat) (e : Int) : lower m e ≤ (m - 1 / 4) * 2 ^ e := by
  rw [lower]
  gcongr
  split <;> linarith

theorem le_lower (m : Nat) (e : Int) : (m - 1 / 2) * 2 ^ e ≤ lower m e := by
  rw [lower]
  gcongr
  split <;> linarith

/-- What is rounded to a double is nearest to its significand at its exponent. -/
theorem RoundsTo.isNearest (h : RoundsTo m e x) : IsNearest m (x / 2 ^ e) := by
  have hpos : (0 : ℚ) < 2 ^ e := by positivity
  have hlower := le_lower m e
  refine ⟨?_, ?_, fun hm => ⟨?_, ?_⟩⟩
  · rw [le_div_iff₀ hpos]
    exact hlower.trans h.low
  · rw [div_le_iff₀ hpos]
    exact h.high
  · rw [lt_div_iff₀ hpos]
    exact hlower.trans_lt (h.odd hm).1
  · rw [div_lt_iff₀ hpos]
    exact (h.odd hm).2

/-- What is rounded to a double from below a power of two is nearest to twice that power. -/
theorem RoundsTo.isNearest_below (h : RoundsTo (2 ^ 52) e x) (he : -1074 < e)
    (hx : x < 2 ^ 52 * 2 ^ e) : IsNearest (2 ^ 53) (x / 2 ^ (e - 1)) := by
  have hpos : (0 : ℚ) < 2 ^ (e - 1) := by positivity
  have hstep : (2 : ℚ) ^ e = 2 * 2 ^ (e - 1) := by
    rw [← zpow_one_add₀ (by norm_num)]
    congr 1
    ring
  have hlow := h.low
  rw [lower, if_pos ⟨rfl, he⟩, hstep] at hlow
  rw [hstep] at hx
  push_cast at hlow
  refine ⟨?_, ?_, fun hm => absurd hm (by norm_num)⟩
  · rw [le_div_iff₀ hpos]
    push_cast
    linarith
  · rw [div_le_iff₀ hpos]
    push_cast
    linarith

theorem IsMagnitude.add_half_lt (hm : IsMagnitude m e) : (m : ℚ) + 1 / 2 < 2 ^ 53 := by
  have hlt : (m : ℚ) + 1 ≤ 2 ^ 53 := by exact_mod_cast hm.lt
  linarith

/-- Only the doubles with the smallest exponent have fewer binary digits than others, and what is
rounded to a power of two. -/
theorem RoundsTo.smallest (h : RoundsTo m e x) (hm : IsMagnitude m e) (hx : x < 2 ^ 52 * 2 ^ e)
    (hnot : ¬ (m = 2 ^ 52 ∧ -1074 < e)) : e = -1074 := by
  have hpos : (0 : ℚ) < 2 ^ e := by positivity
  have hge := hm.ge
  rcases hm.norm with hnorm | he
  · by_contra he
    have hne : m ≠ 2 ^ 52 := fun heq => hnot ⟨heq, by omega⟩
    have hlt : (2 : ℚ) ^ 52 + 1 ≤ m := by exact_mod_cast (by omega : 2 ^ 52 + 1 ≤ m)
    have hlow := (le_lower m e).trans h.low
    nlinarith
  · exact he

/-- The unit of a fraction is that of the double it is rounded to, unless it is rounded up to a
power of two. -/
theorem unit_cases (hm : IsMagnitude m e) (hnum : 0 < num) (hden : 0 < den)
    (h : RoundsTo m e (num / den)) :
    max (floorLog2 num den - 52) (-1074) = e ∨
      m = 2 ^ 52 ∧ -1074 < e ∧ (num / den : ℚ) < 2 ^ 52 * 2 ^ e ∧
        max (floorLog2 num den - 52) (-1074) = e - 1 := by
  have hge := hm.ge
  have hpos : (0 : ℚ) < 2 ^ e := by positivity
  by_cases hreach : (2 : ℚ) ^ 52 * 2 ^ e ≤ num / den
  · -- the fraction has as many binary digits as the significand
    have habove : (num / den : ℚ) < 2 ^ 53 * 2 ^ e :=
      h.high.trans_lt ((mul_lt_mul_iff_left₀ hpos).2 hm.add_half_lt)
    have hfloor := floorLog2_eq_add hnum hden 52 hreach habove
    omega
  · rw [not_le] at hreach
    by_cases hcase : m = 2 ^ 52 ∧ -1074 < e
    · have hbelow : (2 : ℚ) ^ 51 * 2 ^ e ≤ num / den := by
        have hlow := h.low
        rw [lower, if_pos hcase, hcase.1] at hlow
        push_cast at hlow
        nlinarith
      have hfloor := floorLog2_eq_add hnum hden 51 hbelow hreach
      exact .inr ⟨hcase.1, hcase.2, hreach, by omega⟩
    · -- there is no smaller unit than this
      have hsmallest := h.smallest hm hreach hcase
      rw [pow_mul_zpow] at hreach
      have hfloor := lt_of_zpow_lt ((floorLog2_spec hnum hden).1.trans_lt hreach)
      omega

/-- What is rounded to a double is a fraction of which that double is made. -/
theorem ofFraction_eq (hm : IsMagnitude m e) (hnum : 0 < num) (hden : 0 < den)
    (h : RoundsTo m e (num / den)) : ofFraction num den = ofMagnitude m e := by
  have hle := hm.le
  rw [ofFraction, if_neg hnum.ne']
  rcases unit_cases hm hnum hden h with hunit | ⟨rfl, he, hbelow, hunit⟩
  · rw [hunit]
    dsimp only
    rw [roundQuotient_scaled hden h.isNearest, if_neg (show ¬ m = Nat.pow 2 53 from hm.lt.ne)]
    dsimp only
    rw [if_neg (by omega), ofMagnitude]
  · have hfull : (2 : Nat) ^ 53 = Nat.pow 2 53 := rfl
    rw [hunit]
    dsimp only
    rw [roundQuotient_scaled hden (h.isNearest_below he hbelow), if_pos hfull]
    dsimp only
    rw [sub_add_cancel, if_neg (by omega), ofMagnitude]
    rfl

/-! ### Decimals -/

/-- A number with so many digits is between two neighbouring powers of ten. -/
theorem length_toDigits_bounds {n : Nat} (hn : 0 < n) :
    10 ^ ((Nat.toDigits 10 n).length - 1) ≤ n ∧ n < 10 ^ (Nat.toDigits 10 n).length := by
  have hlength : 0 < (Nat.toDigits 10 n).length := Nat.length_toDigits_pos
  refine ⟨?_, (Nat.length_toDigits_le_iff (by decide) hlength).1 le_rfl⟩
  rcases Nat.eq_zero_or_pos ((Nat.toDigits 10 n).length - 1) with hzero | hpos
  · rw [hzero]
    exact hn
  · have hiff := Nat.length_toDigits_le_iff (b := 10) (n := n) (by decide) hpos
    by_contra hlt
    have := hiff.2 (not_le.1 hlt)
    omega

theorem RoundsTo.lt (h : RoundsTo m e x) (hm : IsMagnitude m e) : x < 2 ^ 1024 := by
  have hlt := hm.add_half_lt
  have hpow : (2 : ℚ) ^ e ≤ 2 ^ 971 := by
    rw [← zpow_natCast]
    exact zpow_le_zpow_right₀ (by norm_num) hm.le
  calc x ≤ (m + 1 / 2) * 2 ^ e := h.high
    _ < 2 ^ 53 * 2 ^ e := by gcongr
    _ ≤ 2 ^ 53 * 2 ^ 971 := by gcongr
    _ = 2 ^ 1024 := by rw [← pow_add]

theorem RoundsTo.gt (h : RoundsTo m e x) (hm : IsMagnitude m e) (hpos : 0 < m) :
    (2 : ℚ) ^ (-1075 : Int) ≤ x := by
  have hone : (1 : ℚ) ≤ m := by exact_mod_cast hpos
  have hhalf : (1 / 2 : ℚ) ≤ m - 1 / 2 := by linarith
  have hpow : (2 : ℚ) ^ (-1074 : Int) ≤ 2 ^ e := zpow_le_zpow_right₀ (by norm_num) hm.ge
  calc (2 : ℚ) ^ (-1075 : Int) = 1 / 2 * 2 ^ (-1074 : Int) := by
        rw [one_div, ← zpow_neg_one, ← zpow_add₀ (by norm_num)]
        rfl
    _ ≤ (m - 1 / 2) * 2 ^ e := by gcongr
    _ ≤ x := (le_lower m e).trans h.low

/-- Powers of ten outgrow those of two. -/
theorem two_pow_lt_ten_pow {k : Nat} (hk : k ≤ 1200) : (2 : ℚ) ^ k < 10 ^ 400 := by
  calc (2 : ℚ) ^ k ≤ 2 ^ (3 * 400) := pow_le_pow_right₀ (by norm_num) hk
    _ = 8 ^ 400 := by
        rw [pow_mul]
        norm_num
    _ < 10 ^ 400 := pow_lt_pow_left₀ (by norm_num) (by norm_num) (by norm_num)

/-- A decimal is between two neighbouring powers of ten. -/
theorem decimal_bounds {n : Nat} (hn : 0 < n) (p : Int) :
    (10 : ℚ) ^ (p + (Nat.toDigits 10 n).length - 1) ≤ n * 10 ^ p ∧
      (n * 10 ^ p : ℚ) < 10 ^ (p + (Nat.toDigits 10 n).length) := by
  obtain ⟨hlow, hhigh⟩ := length_toDigits_bounds hn
  have hlength : 0 < (Nat.toDigits 10 n).length := Nat.length_toDigits_pos
  have hten : (0 : ℚ) < 10 ^ p := by positivity
  constructor
  · calc (10 : ℚ) ^ (p + (Nat.toDigits 10 n).length - 1)
        = 10 ^ ((((Nat.toDigits 10 n).length - 1 : Nat) : Int) + p) := by
          congr 1
          omega
      _ = 10 ^ ((Nat.toDigits 10 n).length - 1) * 10 ^ p := by
          rw [zpow_add₀ (by norm_num), zpow_natCast]
      _ ≤ n * 10 ^ p := by
          gcongr
          exact_mod_cast hlow
  · calc (n * 10 ^ p : ℚ) < 10 ^ (Nat.toDigits 10 n).length * 10 ^ p := by
          gcongr
          exact_mod_cast hhigh
      _ = 10 ^ (p + (Nat.toDigits 10 n).length) := by
          rw [add_comm, zpow_add₀ (by norm_num), zpow_natCast]

/-- Decimals that are rounded to doubles other than zero are neither too large nor too small. -/
theorem RoundsTo.exponent_bounds {n : Nat} {p : Int} (h : RoundsTo m e (n * 10 ^ p))
    (hm : IsMagnitude m e) (hpos : 0 < m) (hn : 0 < n) :
    -400 ≤ p + (Nat.toDigits 10 n).length ∧ p + (Nat.toDigits 10 n).length ≤ 400 := by
  obtain ⟨hlow, hhigh⟩ := decimal_bounds hn p
  constructor
  · by_contra hlt
    have hsmall : (10 : ℚ) ^ (-400 : Int) < 2 ^ (-1075 : Int) := by
      rw [zpow_neg, zpow_neg, zpow_ofNat, zpow_ofNat, inv_lt_inv₀ (by positivity) (by positivity)]
      exact two_pow_lt_ten_pow (by decide)
    have hle : (10 : ℚ) ^ (p + (Nat.toDigits 10 n).length) ≤ 10 ^ (-400 : Int) :=
      zpow_le_zpow_right₀ (by norm_num) (by omega)
    exact absurd ((h.gt hm hpos).trans (hhigh.le.trans hle)) hsmall.not_ge
  · by_contra hgt
    have hle : (10 : ℚ) ^ 400 ≤ 10 ^ (p + (Nat.toDigits 10 n).length - 1) := by
      rw [← zpow_natCast]
      exact zpow_le_zpow_right₀ (by norm_num) (by omega)
    exact absurd ((hle.trans hlow).trans_lt (h.lt hm)) (two_pow_lt_ten_pow (by norm_num)).not_gt

/-- What is rounded to a double is a decimal of which that double is made. -/
theorem ofDecimal_eq {n : Nat} {p : Int} (hm : IsMagnitude m e) (hpos : 0 < m) (hn : 0 < n)
    (h : RoundsTo m e (n * 10 ^ p)) : ofDecimal n p = ofMagnitude m e := by
  obtain ⟨hnonzero, hfinite⟩ := h.exponent_bounds hm hpos hn
  rw [ofDecimal, if_neg hn.ne', if_neg (by omega), if_neg (by omega)]
  rw [zpow_eq_div (b := 10) (by norm_num)] at h
  split
  · next hp =>
    obtain hzero : (-p).toNat = 0 := by omega
    rw [hzero, pow_zero, div_one] at h
    refine ofFraction_eq hm (Nat.mul_pos hn (Nat.pow_pos (by decide))) one_pos ?_
    rw [Nat.cast_one, div_one]
    exact_mod_cast h
  · next hp =>
    obtain hzero : p.toNat = 0 := by omega
    rw [hzero, pow_zero, mul_one_div] at h
    refine ofFraction_eq hm hn (Nat.pow_pos (by decide)) ?_
    exact_mod_cast h

/-! ### Bits -/

theorem isMagnitude_magnitude (hd : d.isFinite) : IsMagnitude d.magnitude.1 d.magnitude.2 := by
  have hmantissa : d.mantissaField < 2 ^ 52 := Nat.mod_lt _ (by decide)
  have hexponent : d.exponentField < 2 ^ 11 := Nat.mod_lt _ (by decide)
  have hfinite : d.exponentField ≠ 2047 := by simpa [isFinite] using hd
  have hpow : Nat.pow 2 52 = 2 ^ 52 := rfl
  rw [magnitude]
  split
  · exact ⟨by dsimp only; omega, .inr rfl, le_rfl, by dsimp only; omega⟩
  · next hzero =>
    have hzero : d.exponentField ≠ 0 := by simpa using hzero
    exact ⟨by dsimp only; omega, .inl (by dsimp only; omega), by dsimp only; omega,
      by dsimp only; omega⟩

/-- A finite double is made of its sign, its significand and its exponent. -/
theorem withSign_ofMagnitude (d : Double) :
    (ofMagnitude d.magnitude.1 d.magnitude.2).withSign d.isNegative = d := by
  have hlt := d.bits.toNat_lt
  have hmantissa : d.mantissaField = d.bits.toNat % 2 ^ 52 := rfl
  have hexponent : d.exponentField = d.bits.toNat / 2 ^ 52 % 2 ^ 11 := rfl
  have hpow : Nat.pow 2 52 = 2 ^ 52 := rfl
  -- all bits but that of the sign come back, be the double subnormal or not
  have hbits : (ofMagnitude d.magnitude.1 d.magnitude.2).bits.toNat = d.bits.toNat % 2 ^ 63 := by
    rw [magnitude, ofMagnitude]
    split
    · next hzero =>
      have hzero : d.exponentField = 0 := by simpa using hzero
      dsimp only
      rw [if_pos (by omega), UInt64.toNat_ofNat_of_lt' (by rw [UInt64.size]; omega)]
      omega
    · next hzero =>
      have hzero : d.exponentField ≠ 0 := by simpa using hzero
      dsimp only
      have hfield : ((d.exponentField : Int) - 1075 + 1075).toNat = d.exponentField := by omega
      rw [hpow, if_neg (by omega), hfield, UInt64.toNat_ofNat_of_lt' (by rw [UInt64.size]; omega)]
      omega
  have hsign : d.bits.toNat % 2 ^ 63 + (if d.isNegative then 2 ^ 63 else 0) = d.bits.toNat := by
    have hnegative : d.isNegative = decide (2 ^ 63 ≤ d.bits.toNat) := rfl
    rw [hnegative]
    split
    · next h =>
      have h := of_decide_eq_true h
      omega
    · next h =>
      have h := of_decide_eq_false (Bool.not_eq_true _ ▸ h)
      omega
  have hpow' : Nat.pow 2 63 = 2 ^ 63 := rfl
  have hwhole : d.bits.toNat % 2 ^ 63 % 2 ^ 63 = d.bits.toNat % 2 ^ 63 := Nat.mod_mod _ _
  rw [withSign, hbits, hpow', hwhole, hsign, UInt64.ofNat_toNat]

end DeploySync.Double
