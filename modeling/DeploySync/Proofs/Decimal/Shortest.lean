import DeploySync.Decimal.Shortest
import DeploySync.Proofs.Decimal.Rounding
import Mathlib.Tactic.FieldSimp

/-!
# The shortest digits of a double

The digits are found in the interval of the values that are rounded to the double. A power of ten
that is not above the distance from the double to the lower end has a multiple in the interval, and
the seventeenth power below the leading one is that small.

## Main results

* `Double.Rounding.contains_iff` — the interval has the values that are rounded to the double
* `Double.Rounding.search_spec` — the search ends inside the interval
* `Double.shortest_spec` — the shortest digits are rounded to the double
-/

namespace DeploySync.Double

variable {m n : Nat} {e power : Int} {x : ℚ} {d : Double}

namespace Rounding

theorem den_eq (m : Nat) (e : Int) : ((roundingOf m e).den : ℚ) = 4 * 2 ^ (-e).toNat := by
  have hden : (roundingOf m e).den = 4 * 2 ^ (-e).toNat := rfl
  rw [hden]
  push_cast
  rfl

theorem den_pos (m : Nat) (e : Int) : (0 : ℚ) < (roundingOf m e).den := by
  rw [den_eq]
  positivity

theorem low_eq (hm : 0 < m) (e : Int) :
    ((roundingOf m e).low : ℚ) = lower m e * (roundingOf m e).den := by
  have hlow : (roundingOf m e).low =
      (4 * m - if m = 2 ^ 52 ∧ -1074 < e then 1 else 2) * 2 ^ e.toNat := by
    have hbool : (m = Nat.pow 2 52 && -1074 < e) = true ↔ m = 2 ^ 52 ∧ -1074 < e := by simp
    simp only [roundingOf, hbool]
    rfl
  rw [hlow, lower, den_eq, zpow_eq_div two_ne_zero]
  by_cases hpower : m = 2 ^ 52 ∧ -1074 < e
  · rw [if_pos hpower, if_pos hpower, Nat.cast_mul, Nat.cast_sub (by omega)]
    push_cast
    field_simp
  · rw [if_neg hpower, if_neg hpower, Nat.cast_mul, Nat.cast_sub (by omega)]
    push_cast
    field_simp
    ring

theorem value_eq (m : Nat) (e : Int) :
    ((roundingOf m e).value : ℚ) = m * 2 ^ e * (roundingOf m e).den := by
  have hvalue : (roundingOf m e).value = 4 * m * 2 ^ e.toNat := rfl
  rw [hvalue, den_eq, zpow_eq_div two_ne_zero]
  push_cast
  field_simp

theorem high_eq (m : Nat) (e : Int) :
    ((roundingOf m e).high : ℚ) = (m + 1 / 2) * 2 ^ e * (roundingOf m e).den := by
  have hhigh : (roundingOf m e).high = (4 * m + 2) * 2 ^ e.toNat := rfl
  rw [hhigh, den_eq, zpow_eq_div two_ne_zero]
  push_cast
  field_simp
  ring

/-- A fraction is in the interval exactly if it is rounded to the double. -/
theorem contains_iff (hm : 0 < m) (e : Int) {q : Nat} (hq : 0 < q) :
    (roundingOf m e).contains n q ↔ RoundsTo m e (n / q) := by
  have hden := den_pos m e
  have hq' : (0 : ℚ) < q := by exact_mod_cast hq
  -- the four comparisons of natural numbers as comparisons of fractions
  have hlow : (roundingOf m e).low * q ≤ n * (roundingOf m e).den ↔ lower m e ≤ n / q := by
    rw [le_div_iff₀ hq', ← mul_le_mul_iff_left₀ hden, mul_right_comm, ← low_eq hm]
    exact_mod_cast Iff.rfl
  have hlow' : (roundingOf m e).low * q < n * (roundingOf m e).den ↔ lower m e < n / q := by
    rw [lt_div_iff₀ hq', ← mul_lt_mul_iff_left₀ hden, mul_right_comm, ← low_eq hm]
    exact_mod_cast Iff.rfl
  have hhigh : n * (roundingOf m e).den ≤ (roundingOf m e).high * q ↔
      (n / q : ℚ) ≤ (m + 1 / 2) * 2 ^ e := by
    rw [div_le_iff₀ hq', ← mul_le_mul_iff_left₀ hden, mul_right_comm _ (q : ℚ), ← high_eq]
    exact_mod_cast Iff.rfl
  have hhigh' : n * (roundingOf m e).den < (roundingOf m e).high * q ↔
      (n / q : ℚ) < (m + 1 / 2) * 2 ^ e := by
    rw [div_lt_iff₀ hq', ← mul_lt_mul_iff_left₀ hden, mul_right_comm _ (q : ℚ), ← high_eq]
    exact_mod_cast Iff.rfl
  have hclosed : (roundingOf m e).closed = (m % 2 == 0) := rfl
  rw [contains, hclosed]
  -- the bounds belong to the interval of a double with an even significand only
  split
  · next heven =>
    have heven : m % 2 = 0 := by simpa using heven
    rw [Bool.and_eq_true_iff, decide_eq_true_iff, decide_eq_true_iff, hlow, hhigh]
    exact ⟨fun h => ⟨h.1, h.2, fun hodd => by omega⟩, fun h => ⟨h.low, h.high⟩⟩
  · next hodd =>
    have hodd : m % 2 = 1 := by
      have : m % 2 ≠ 0 := by simpa using hodd
      omega
    rw [Bool.and_eq_true_iff, decide_eq_true_iff, decide_eq_true_iff, hlow', hhigh']
    exact ⟨fun h => ⟨h.1.le, h.2.le, fun _ => h⟩, fun h => h.odd hodd⟩

/-- A multiple of a power of ten as a fraction. -/
theorem mul_zpow_eq (n : Nat) (power : Int) :
    (n * 10 ^ power : ℚ) =
      (n * Nat.pow 10 power.toNat : Nat) / (Nat.pow 10 (-power).toNat : Nat) := by
  rw [zpow_eq_div (b := 10) (by norm_num), Nat.cast_mul, ← mul_div_assoc]
  exact_mod_cast rfl

/-- The multiple that is found is rounded to the double. -/
theorem roundsTo_of_nearest? (hm : 0 < m) (h : (roundingOf m e).nearest? power = some n) :
    RoundsTo m e (n * 10 ^ power) := by
  have hinside (n : Nat) (hn : (roundingOf m e).contains (n * Nat.pow 10 power.toNat)
      (Nat.pow 10 (-power).toNat) = true) : RoundsTo m e (n * 10 ^ power) := by
    rw [mul_zpow_eq]
    exact (contains_iff hm e (Nat.pow_pos (by decide))).1 hn
  -- of the multiples below and above the double, one in its interval is taken
  rw [nearest?] at h
  dsimp only at h
  split at h
  · next hbelow habove =>
    obtain rfl := Option.some.inj h
    split
    · exact hinside _ hbelow
    · exact hinside _ habove
  · next hbelow _ =>
    obtain rfl := Option.some.inj h
    exact hinside _ hbelow
  · next _ habove =>
    obtain rfl := Option.some.inj h
    exact hinside _ habove
  · cases h

/-- The double as a fraction in units of a power of ten. -/
theorem value_div_den_mul (m : Nat) (e power : Int) :
    (((roundingOf m e).value * Nat.pow 10 (-power).toNat : Nat) /
      ((roundingOf m e).den * Nat.pow 10 power.toNat : Nat) * 10 ^ power : ℚ) = m * 2 ^ e := by
  have hden := den_pos m e
  have hpow (k : Nat) : (Nat.pow 10 k : ℚ) = 10 ^ k := by exact_mod_cast rfl
  rw [Nat.cast_mul, Nat.cast_mul, value_eq, zpow_eq_div (b := 10) (by norm_num) power, hpow, hpow]
  field_simp

/-- A value is between two neighbouring multiples of a unit. -/
theorem floor_bounds {num den : Nat} (hden : 0 < den) {u x : ℚ} (hu : 0 < u)
    (hx : num / den * u = x) : (num / den : Nat) * u ≤ x ∧ x < ((num / den : Nat) + 1) * u := by
  have hpos : (0 : ℚ) < den := by exact_mod_cast hden
  rw [← hx]
  constructor
  · gcongr
    rw [le_div_iff₀ hpos]
    exact_mod_cast Nat.div_mul_le_self num den
  · gcongr
    rw [div_lt_iff₀ hpos]
    exact_mod_cast Nat.lt_mul_of_div_lt (Nat.lt_succ_self _) hden

/-- What is not above the double, and above the lower end, is rounded to the double. -/
theorem roundsTo_of_le (hlow : lower m e < x) (hle : x ≤ m * 2 ^ e) : RoundsTo m e x := by
  have hhigh : (m * 2 ^ e : ℚ) < (m + 1 / 2) * 2 ^ e := by
    gcongr
    linarith
  exact ⟨hlow.le, (hle.trans_lt hhigh).le, fun _ => ⟨hlow, hle.trans_lt hhigh⟩⟩

theorem lower_nonneg (hm : 0 < m) (e : Int) : 0 ≤ lower m e := by
  have hone : (1 : ℚ) ≤ m := by exact_mod_cast hm
  have hhalf : (0 : ℚ) ≤ m - 1 / 2 := by linarith
  exact (mul_nonneg hhalf (by positivity)).trans (le_lower m e)

/-- A power of ten that is not above the distance to the lower end has a multiple in the
interval. -/
theorem exists_nearest? (hm : 0 < m) (h : (10 : ℚ) ^ power ≤ m * 2 ^ e - lower m e) :
    ∃ n, n ≠ 0 ∧ (roundingOf m e).nearest? power = some n := by
  have hnonneg := lower_nonneg hm e
  have hdown : 0 < Nat.pow 10 (-power).toNat := Nat.pow_pos (by decide)
  have hden : 0 < (roundingOf m e).den * Nat.pow 10 power.toNat :=
    Nat.mul_pos (by exact_mod_cast den_pos m e) (Nat.pow_pos (by decide))
  obtain ⟨hfloor, hceil⟩ := floor_bounds hden (by positivity) (value_div_den_mul m e power)
  rw [nearest?]
  dsimp only
  -- the multiple below the double is inside, being less than the power away
  generalize (roundingOf m e).value * Nat.pow 10 (-power).toNat /
    ((roundingOf m e).den * Nat.pow 10 power.toNat) = n at *
  have hinside : RoundsTo m e (n * 10 ^ power) := roundsTo_of_le (by linarith) hfloor
  have hne : n ≠ 0 := by
    rintro rfl
    rw [Nat.cast_zero, zero_add, one_mul] at hceil
    linarith
  rw [mul_zpow_eq, ← contains_iff hm e hdown] at hinside
  rw [hinside]
  split
  · split
    · exact ⟨_, hne, rfl⟩
    · exact ⟨_, Nat.succ_ne_zero _, rfl⟩
  · exact ⟨_, hne, rfl⟩
  · next h _ => cases h
  · next h _ => cases h

/-- The search ends inside the interval once it can come to a power that is small enough. -/
theorem search_spec (hm : 0 < m) {fuel k : Nat} (hk : k ≤ fuel)
    (h : (10 : ℚ) ^ (power - k) ≤ m * 2 ^ e - lower m e) :
    ((roundingOf m e).search fuel power).1 ≠ 0 ∧
      RoundsTo m e (((roundingOf m e).search fuel power).1 *
        10 ^ ((roundingOf m e).search fuel power).2) := by
  induction fuel generalizing power k with
  | zero =>
    obtain rfl : k = 0 := by omega
    rw [Nat.cast_zero, sub_zero] at h
    obtain ⟨n, hn, hnearest⟩ := exists_nearest? hm h
    rw [search, hnearest]
    exact ⟨hn, roundsTo_of_nearest? hm hnearest⟩
  | succ fuel ih =>
    -- where the search goes on, a smaller power is left
    have hnext (hgoes : ∀ n, (roundingOf m e).nearest? power = some n → n = 0) :
        ((roundingOf m e).search fuel (power - 1)).1 ≠ 0 ∧
          RoundsTo m e (((roundingOf m e).search fuel (power - 1)).1 *
            10 ^ ((roundingOf m e).search fuel (power - 1)).2) := by
      obtain ⟨k, rfl⟩ : ∃ j, k = j + 1 := by
        refine Nat.exists_eq_add_one_of_ne_zero ?_
        rintro rfl
        rw [Nat.cast_zero, sub_zero] at h
        obtain ⟨n, hn, hnearest⟩ := exists_nearest? hm h
        exact hn (hgoes n hnearest)
      refine ih (k := k) (by omega) ?_
      have hpower : power - 1 - k = power - (k + 1 : Nat) := by omega
      rwa [hpower]
    rw [search]
    split
    · next n hnearest =>
      split
      · next hzero =>
        refine hnext fun n' hn' => ?_
        rw [hnearest] at hn'
        rw [← Option.some.inj hn', hzero]
      · next hn => exact ⟨hn, roundsTo_of_nearest? hm hnearest⟩
    · next hnone =>
      refine hnext fun n hn => ?_
      rw [hnone] at hn
      cases hn

end Rounding

/-- The leading digit of a fraction does not stand for more than the fraction. -/
theorem leadingPower_le {num den : Nat} (hnum : 0 < num) (hden : 0 < den) :
    (10 : ℚ) ^ leadingPower num den ≤ num / den := by
  obtain ⟨hnum1, hnum2⟩ := length_toDigits_bounds hnum
  obtain ⟨hden1, hden2⟩ := length_toDigits_bounds hden
  have hlength (n : Nat) : (Nat.toDigits 10 n).length - 1 + 1 = (Nat.toDigits 10 n).length :=
    Nat.sub_add_cancel Nat.length_toDigits_pos
  obtain ⟨hbelow, -⟩ := quotient_bounds (b := 10) (by decide) hnum1 (by rwa [hlength]) hden1
    (by rwa [hlength])
  have hk : (((Nat.toDigits 10 num).length - 1 : Nat) : Int) -
      ((Nat.toDigits 10 den).length - 1 : Nat) =
        (Nat.toDigits 10 num).length - (Nat.toDigits 10 den).length := by
    have := hlength num
    have := hlength den
    omega
  have hreaches := reaches_iff (b := 10) (by decide) num hden
    ((Nat.toDigits 10 num).length - (Nat.toDigits 10 den).length)
  rw [hk, Nat.cast_ofNat] at hbelow
  rw [Nat.cast_ofNat] at hreaches
  rw [leadingPower]
  -- the difference of the numbers of digits is the power, or one too many
  by_cases hreach : (10 : ℚ) ^
      (((Nat.toDigits 10 num).length : Int) - (Nat.toDigits 10 den).length) ≤ num / den
  · exact (congrArg ((10 : ℚ) ^ ·) (if_pos (hreaches.2 hreach))).trans_le hreach
  · exact (congrArg ((10 : ℚ) ^ ·) (if_neg (mt hreaches.1 hreach))).trans_le hbelow.le

/-- Zeros that are moved do not change the value. -/
theorem stripZeros_spec (fuel : Nat) {n : Nat} (hn : n ≠ 0) (power : Int) :
    (stripZeros fuel n power).1 ≠ 0 ∧
      ((stripZeros fuel n power).1 * 10 ^ (stripZeros fuel n power).2 : ℚ) = n * 10 ^ power := by
  induction fuel generalizing n power with
  | zero => exact ⟨hn, rfl⟩
  | succ fuel ih =>
    rw [stripZeros]
    split
    · next hzero =>
      have hzero : n % 10 = 0 := by simpa [hn] using hzero
      obtain ⟨hne, heq⟩ := ih (n := n / 10) (by omega) (power + 1)
      refine ⟨hne, heq.trans ?_⟩
      have hten : (n : ℚ) = (n / 10 : Nat) * 10 := by
        exact_mod_cast (by omega : n = n / 10 * 10)
      rw [zpow_add_one₀ (by norm_num), hten]
      ring
    · exact ⟨hn, rfl⟩

/-- Seventeen digits suffice: their unit is not above the distance to the lower end. -/
theorem zpow_leadingPower_le (hm : IsMagnitude m e) (hpos : 0 < m) :
    (10 : ℚ) ^ (leadingPower (roundingOf m e).value (roundingOf m e).den - (17 : Nat)) ≤
      m * 2 ^ e - lower m e := by
  have hden : 0 < (roundingOf m e).den := by exact_mod_cast Rounding.den_pos m e
  have hvalue : 0 < (roundingOf m e).value :=
    Nat.mul_pos (Nat.mul_pos (by decide) hpos) (Nat.pow_pos (by decide))
  have hleading := leadingPower_le hvalue hden
  have hlower := lower_le m e
  have hunit : (0 : ℚ) < 2 ^ e := by positivity
  have hlt : (m : ℚ) ≤ 10 ^ 17 / 4 := by
    have := hm.lt
    have : (m : ℚ) ≤ 2 ^ 53 := by exact_mod_cast this.le
    norm_num at this ⊢
    linarith
  rw [Rounding.value_eq, mul_div_cancel_right₀ _ (Rounding.den_pos m e).ne'] at hleading
  rw [zpow_sub₀ (by norm_num), zpow_natCast, div_le_iff₀ (by norm_num)]
  calc (10 : ℚ) ^ leadingPower (roundingOf m e).value (roundingOf m e).den ≤ m * 2 ^ e := hleading
    _ ≤ 10 ^ 17 / 4 * 2 ^ e := by gcongr
    _ ≤ (m * 2 ^ e - lower m e) * 10 ^ 17 := by linarith

/-- The shortest digits of a double are rounded to it. -/
theorem shortest_spec (hd : d.isFinite) (hpos : 0 < d.magnitude.1) :
    d.shortest.1 ≠ 0 ∧
      RoundsTo d.magnitude.1 d.magnitude.2 (d.shortest.1 * 10 ^ d.shortest.2) := by
  have hunit := zpow_leadingPower_le (isMagnitude_magnitude hd) hpos
  obtain ⟨hne, hrounds⟩ := Rounding.search_spec hpos (show 17 ≤ 20 by decide) hunit
  obtain ⟨hne', hvalue⟩ := stripZeros_spec 20 hne _
  rw [← hvalue] at hrounds
  exact ⟨hne', hrounds⟩

end DeploySync.Double
