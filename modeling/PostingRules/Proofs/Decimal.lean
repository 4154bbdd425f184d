import PostingRules.Decimal.Basic
import Mathlib.Algebra.Order.Field.Rat
import Mathlib.Tactic.FieldSimp
import Mathlib.Tactic.Linarith
import Mathlib.Tactic.Positivity
import Mathlib.Tactic.Ring

/-!
# Values and rounding of decimal numbers

* `Decimal.value`: the rational number of a decimal number;
* `Decimal.lt_iff_value_lt`, `Decimal.le_iff_value_le`: the order is that of the values;
* `Decimal.largest`, `Decimal.smallest`: the ends of the order; **`Decimal.lt_largest_iff`,
  `Decimal.smallest_lt_iff`**: every other number is between them;
* `RoundsAway`, `RoundsAway.unique`: rounding to an integer, a half away from zero;
* **`roundsAway_roundTo`**: a decimal number is rounded to some places by its mantissa.
-/

namespace PostingRules

/-- The value of a decimal number. -/
def Decimal.value (d : Decimal) : ℚ := d.num / 10 ^ d.scale

theorem Decimal.value_eq (d : Decimal) : d.value =
    if d.negative then -((d.mantissa : ℚ) / 10 ^ d.scale) else d.mantissa / 10 ^ d.scale := by
  unfold Decimal.value Decimal.num
  split <;> push_cast <;> ring

theorem Decimal.value_of_make? (negative : Bool) {m s : Nat} (hm : m ≤ maxMantissa)
    (hs : s ≤ maxScale) : ∃ x, Decimal.make? negative m s = some x ∧
      x.value = ((if negative then -(m : ℤ) else m : ℤ) : ℚ) / 10 ^ s := by
  refine ⟨_, by rw [Decimal.make?, dif_pos ⟨hm, hs⟩], ?_⟩
  cases negative
  · rfl
  · rcases Nat.eq_zero_or_pos m with rfl | hpos
    · rfl
    · have hne : (m != 0) = true := by simpa using hpos.ne'
      simp [Decimal.value, Decimal.num, hne]

/-! ## The order -/

namespace Decimal

/-- **The order is that of the values.** -/
theorem lt_iff_value_lt {a b : Decimal} : a < b ↔ a.value < b.value := by
  have ha : (0 : ℚ) < 10 ^ a.scale := by positivity
  have hb : (0 : ℚ) < 10 ^ b.scale := by positivity
  have hcast : a < b ↔ (a.num : ℚ) * 10 ^ b.scale < b.num * 10 ^ a.scale := by
    have hten : ∀ k, ((tenTo k : ℕ) : ℤ) = 10 ^ k := fun k => by
      rw [tenTo, Nat.pow_eq, Nat.cast_pow, Nat.cast_ofNat]
    change a.num * tenTo b.scale < b.num * tenTo a.scale ↔ _
    rw [hten, hten]
    exact_mod_cast Iff.rfl
  rw [hcast, value, value, div_lt_div_iff₀ ha hb]

theorem not_lt_iff {a b : Decimal} : ¬ a < b ↔ b ≤ a := Int.not_lt

theorem le_iff_value_le {a b : Decimal} : a ≤ b ↔ a.value ≤ b.value := by
  rw [← not_lt_iff, lt_iff_value_lt, not_lt]

/-- The largest number. -/
def largest : Decimal := ⟨false, maxMantissa, 0, Nat.le_refl _, Nat.zero_le _⟩

/-- The smallest number. -/
def smallest : Decimal := ⟨true, maxMantissa, 0, Nat.le_refl _, Nat.zero_le _⟩

theorem value_largest : largest.value = maxMantissa := by
  rw [value_eq]
  exact div_one _

theorem value_smallest : smallest.value = -maxMantissa := by
  rw [value_eq]
  exact congrArg Neg.neg (div_one _)

theorem abs_value (d : Decimal) : |d.value| = d.mantissa / 10 ^ d.scale := by
  have hnonneg : (0 : ℚ) ≤ d.mantissa / 10 ^ d.scale := by positivity
  rw [value_eq]
  split
  · rw [abs_neg, abs_of_nonneg hnonneg]
  · exact abs_of_nonneg hnonneg

theorem abs_value_lt {d : Decimal} (h : d ≠ largest) (h' : d ≠ smallest) :
    |d.value| < maxMantissa := by
  obtain ⟨negative, mantissa, scale, hm, hs⟩ := d
  have hle : (mantissa : ℚ) ≤ maxMantissa := by exact_mod_cast hm
  have hmax : (0 : ℚ) < maxMantissa := by exact_mod_cast (by decide : 0 < maxMantissa)
  rw [abs_value]
  dsimp only
  cases scale with
  | zero =>
    have hne : mantissa ≠ maxMantissa := by
      rintro rfl
      cases negative with
      | false => exact h rfl
      | true => exact h' rfl
    rw [pow_zero, div_one]
    exact_mod_cast lt_of_le_of_ne hm hne
  | succ k =>
    -- with fraction digits the mantissa is divided by 10 at least
    have hten : (10 : ℚ) ≤ 10 ^ (k + 1) := by
      have hone : (1 : ℚ) ≤ 10 ^ k := one_le_pow₀ (by norm_num)
      rw [pow_succ]
      linarith
    rw [div_lt_iff₀ (by linarith)]
    nlinarith

/-- **No number is above the largest**, and every other number is below it. -/
theorem lt_largest_iff {d : Decimal} : d < largest ↔ d ≠ largest := by
  have hmax : (0 : ℚ) < maxMantissa := by exact_mod_cast (by decide : 0 < maxMantissa)
  rw [lt_iff_value_lt, value_largest]
  constructor
  · rintro h rfl
    exact absurd value_largest h.ne
  · intro h
    by_cases h' : d = smallest
    · rw [h', value_smallest]
      linarith
    · exact (le_abs_self _).trans_lt (abs_value_lt h h')

/-- **No number is below the smallest**, and every other number is above it. -/
theorem smallest_lt_iff {d : Decimal} : smallest < d ↔ d ≠ smallest := by
  have hmax : (0 : ℚ) < maxMantissa := by exact_mod_cast (by decide : 0 < maxMantissa)
  rw [lt_iff_value_lt, value_smallest]
  constructor
  · rintro h rfl
    exact absurd value_smallest h.ne'
  · intro h'
    by_cases h : d = largest
    · rw [h, value_largest]
      linarith
    · exact neg_lt_of_abs_lt (abs_value_lt h h')

theorem le_largest (d : Decimal) : d ≤ largest := by
  rw [le_iff_value_le]
  by_cases h : d = largest
  · rw [h]
  · exact (lt_iff_value_lt.mp (lt_largest_iff.mpr h)).le

theorem smallest_le (d : Decimal) : smallest ≤ d := by
  rw [le_iff_value_le]
  by_cases h : d = smallest
  · rw [h]
  · exact (lt_iff_value_lt.mp (smallest_lt_iff.mpr h)).le

end Decimal

/-! ## Rounding -/

/-- The integer is nearest to the number, and further from zero than the number if there are two. -/
def RoundsAway (x : ℚ) (n : ℤ) : Prop :=
  |x - n| ≤ 1 / 2 ∧ (|x - n| = 1 / 2 → |x| < |(n : ℚ)|)

theorem RoundsAway.neg {x : ℚ} {n : ℤ} (h : RoundsAway x n) : RoundsAway (-x) (-n) := by
  have hsub : |-x - ((-n : ℤ) : ℚ)| = |x - n| := by
    rw [← abs_neg, Int.cast_neg]
    congr 1
    ring
  rw [RoundsAway, hsub, abs_neg, Int.cast_neg, abs_neg]
  exact h

/-- A number is rounded to one integer only. -/
theorem RoundsAway.unique {x : ℚ} {m n : ℤ} (hm : RoundsAway x m) (hn : RoundsAway x n) :
    m = n := by
  -- of two neighbours of a half the one nearer to zero is none
  have hlt : ∀ {m n : ℤ}, RoundsAway x m → RoundsAway x n → ¬ m < n := by
    intro m n hm hn h
    obtain ⟨hm₁, hm₂⟩ := hm
    obtain ⟨hn₁, hn₂⟩ := hn
    have hgap : (m : ℚ) + 1 ≤ n := by exact_mod_cast h
    have hx : x - m = 1 / 2 ∧ x - n = -(1 / 2) := by
      have hlow := (abs_le.mp hn₁).1
      have hhigh := (abs_le.mp hm₁).2
      exact ⟨by linarith, by linarith⟩
    have hmtie := hm₂ (by rw [hx.1, abs_of_pos (by norm_num)])
    have hntie := hn₂ (by rw [hx.2, abs_neg, abs_of_pos (by norm_num)])
    rcases lt_or_ge m 0 with hneg | hpos
    · have hm' : (m : ℚ) + 1 ≤ 0 := by exact_mod_cast hneg
      have hn' : (n : ℚ) ≤ 0 := by linarith [hx.1, hx.2]
      rw [abs_of_nonpos hn'] at hntie
      linarith [neg_abs_le x, neg_le_abs x, hx.2]
    · have hm' : (0 : ℚ) ≤ m := by exact_mod_cast hpos
      rw [abs_of_nonneg hm'] at hmtie
      linarith [le_abs_self x, hx.1]
  exact le_antisymm (not_lt.mp (hlt hn hm)) (not_lt.mp (hlt hm hn))

theorem roundsAway_intCast (n : ℤ) : RoundsAway n n := by
  rw [RoundsAway, sub_self, abs_zero]
  exact ⟨by norm_num, fun h => by norm_num at h⟩

theorem roundsAway_divHalfUp (m : ℕ) {k : ℕ} (hk : 0 < k) :
    RoundsAway (m / 10 ^ k) (divHalfUp m k) := by
  -- The power of ten is even, so its half is exact.
  obtain ⟨a, ha⟩ : ∃ a, tenTo k = 2 * a := by
    obtain ⟨j, rfl⟩ : ∃ j, k = j + 1 := ⟨k - 1, by omega⟩
    exact ⟨5 * 10 ^ j, show 10 ^ (j + 1) = _ by omega⟩
  have hten : (10 : ℚ) ^ k = 2 * a := by exact_mod_cast ha
  have hpos : 0 < a := by have := tenTo_pos k; omega
  have hposq : (0 : ℚ) < 2 * a := by exact_mod_cast Nat.mul_pos two_pos hpos
  obtain ⟨n, hn⟩ : ∃ n, divHalfUp m k = n := ⟨_, rfl⟩
  have hhalf : 2 * a / 2 = a := by omega
  rw [divHalfUp, ha, hhalf] at hn
  have hlow : 2 * a * n ≤ m + a := by
    rw [← hn]
    exact Nat.mul_div_le _ _
  have hhigh : m + a < 2 * a * (n + 1) := by
    rw [← hn]
    exact Nat.lt_mul_div_succ _ (by omega)
  rw [divHalfUp, ha, hhalf, hn, hten]
  have hlow' : -(1 / 2) ≤ (m : ℚ) / (2 * a) - n := by
    have : (n : ℚ) - 1 / 2 ≤ m / (2 * a) := by
      rw [le_div_iff₀ hposq]
      have := (Nat.cast_le (α := ℚ)).mpr hlow
      push_cast at this
      linarith
    linarith
  have hhigh' : (m : ℚ) / (2 * a) - n < 1 / 2 := by
    have : (m : ℚ) / (2 * a) < n + 1 / 2 := by
      rw [div_lt_iff₀ hposq]
      have := (Nat.cast_lt (α := ℚ)).mpr hhigh
      push_cast at this
      linarith
    linarith
  refine ⟨abs_le.mpr ⟨hlow', hhigh'.le⟩, fun htie => ?_⟩
  have hnonneg : 0 ≤ (m : ℚ) / (2 * a) := div_nonneg (Nat.cast_nonneg m) hposq.le
  rcases abs_eq (by norm_num) |>.mp htie with h | h
  · exact absurd h hhigh'.ne
  · push_cast at h ⊢
    rw [abs_of_nonneg hnonneg, abs_of_nonneg (Nat.cast_nonneg n)]
    linarith

/-- **A decimal number is rounded** to some places, a half away from zero. -/
theorem roundsAway_roundTo (d : Decimal) (places : ℕ) :
    RoundsAway (10 ^ places * (d.mantissa / 10 ^ d.scale))
      ((d.roundTo places).mantissa * tenTo (places - (d.roundTo places).scale) : ℕ) := by
  unfold Decimal.roundTo
  split
  · next h =>
    -- No digit is dropped.
    have hexact : (10 : ℚ) ^ places * (d.mantissa / 10 ^ d.scale) =
        ((d.mantissa * tenTo (places - d.scale) : ℕ) : ℤ) := by
      have hsplit : (10 : ℚ) ^ places = 10 ^ (places - d.scale) * 10 ^ d.scale := by
        rw [← pow_add, Nat.sub_add_cancel h]
      have hten : tenTo (places - d.scale) = 10 ^ (places - d.scale) := rfl
      rw [hsplit, hten]
      push_cast
      field_simp
    rw [hexact]
    exact roundsAway_intCast _
  · next h =>
    have hexact : (10 : ℚ) ^ places * (d.mantissa / 10 ^ d.scale) =
        d.mantissa / 10 ^ (d.scale - places) := by
      have hsplit : (10 : ℚ) ^ d.scale = 10 ^ (d.scale - places) * 10 ^ places := by
        rw [← pow_add, Nat.sub_add_cancel (by omega)]
      rw [hsplit]
      field_simp
    have hone : tenTo (places - places) = 1 := by rw [Nat.sub_self]; rfl
    rw [hexact, hone, Nat.mul_one]
    exact roundsAway_divHalfUp d.mantissa (by omega)

end PostingRules
