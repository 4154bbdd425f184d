import PostingRules.Confidence.Binary64
import Mathlib.Algebra.Order.Field.Power
import Mathlib.Data.Rat.Floor
import Mathlib.Tactic.FieldSimp
import Mathlib.Tactic.Linarith
import Mathlib.Tactic.Positivity
import Mathlib.Tactic.Ring

/-!
# Rounding to 53 significant bits

* `abs_roundEven_sub_le`, `roundEven_intCast`, `roundEven_mono`: rounding to an integer;
* `exponent`, `exponent_spec`: the exponent of the last bit of a positive number;
* **`nearest_mono`**: rounding keeps the order;
* **`nearest_natCast`**: integers of at most 53 bits are kept, and bounds by them;
* **`abs_nearest_sub_le`**: the error, relative to the number, is at most `2 ^ -53`;
* `roundHalfAway_nonneg`, `roundHalfAway_le`, `roundHalfAway_succ_le`: half away from zero.
-/

namespace PostingRules.Binary64

/-! ## To an integer -/

theorem floor_le_roundEven (q : ℚ) : q.floor ≤ roundEven q := by
  unfold roundEven
  dsimp only
  split_ifs <;> omega

theorem roundEven_le_floor (q : ℚ) : roundEven q ≤ q.floor + 1 := by
  unfold roundEven
  dsimp only
  split_ifs <;> omega

theorem roundEven_of_lt_half {q : ℚ} (h : q - q.floor < 1 / 2) : roundEven q = q.floor := if_pos h

theorem roundEven_of_half_lt {q : ℚ} (h : 1 / 2 < q - q.floor) : roundEven q = q.floor + 1 := by
  unfold roundEven
  dsimp only
  rw [if_neg h.not_gt, if_pos h]

/-- **The nearest integer** is at most a half away. -/
theorem abs_roundEven_sub_le (q : ℚ) : |(roundEven q : ℚ) - q| ≤ 1 / 2 := by
  have hlow : (q.floor : ℚ) ≤ q := Int.floor_le q
  have hhigh : q < q.floor + 1 := Int.lt_floor_add_one q
  unfold roundEven
  dsimp only
  rw [abs_le]
  split_ifs <;> push_cast <;> constructor <;> linarith

theorem roundEven_intCast (n : ℤ) : roundEven n = n := by
  have hfloor : (n : ℚ).floor = n := (Int.floor_intCast n : ⌊(n : ℚ)⌋ = n)
  rw [roundEven_of_lt_half, hfloor]
  rw [hfloor, sub_self]
  norm_num

theorem roundEven_mono {a b : ℚ} (h : a ≤ b) : roundEven a ≤ roundEven b := by
  rcases eq_or_lt_of_le h with rfl | hab
  · rfl
  have ha := roundEven_le_floor a
  have hb := floor_le_roundEven b
  have hfloor : a.floor ≤ b.floor := Int.floor_le_floor h
  rcases lt_or_eq_of_le hfloor with hlt | heq
  · omega
  by_cases hhalf : 1 / 2 < b - b.floor
  · rw [roundEven_of_half_lt hhalf, ← heq]
    exact ha
  · -- the larger one is at most halfway, so the other one is rounded down
    have hdown : a - a.floor < 1 / 2 := by
      rw [heq]
      linarith
    rw [roundEven_of_lt_half hdown, heq]
    exact hb

/-! ## To 53 bits -/

/-- The exponent of the last of 53 bits of a positive number. -/
def exponent (q : ℚ) : ℤ := ulpExponent q.num.natAbs q.den

theorem log2_bounds {n : ℕ} (hn : 0 < n) :
    (2 : ℚ) ^ (n.log2 : ℤ) ≤ n ∧ (n : ℚ) < 2 ^ ((n.log2 : ℤ) + 1) := by
  have hlow := Nat.log2_self_le hn.ne'
  have hhigh := Nat.lt_log2_self (n := n)
  exact ⟨by exact_mod_cast hlow, by exact_mod_cast hhigh⟩

/-- The numbers of bits of numerator and denominator give the magnitude of a quotient up to a bit. -/
theorem quotient_bounds {num den : ℕ} (hnum : 0 < num) (hden : 0 < den) :
    (2 : ℚ) ^ ((num.log2 : ℤ) - den.log2 - 1) ≤ num / den ∧
      (num : ℚ) / den < 2 ^ ((num.log2 : ℤ) - den.log2 + 1) := by
  obtain ⟨hnum_low, hnum_high⟩ := log2_bounds hnum
  obtain ⟨hden_low, hden_high⟩ := log2_bounds hden
  have hden' : (0 : ℚ) < den := by exact_mod_cast hden
  generalize (num.log2 : ℤ) = a at *
  generalize (den.log2 : ℤ) = b at *
  rw [le_div_iff₀ hden', div_lt_iff₀ hden']
  constructor
  · calc (2 : ℚ) ^ (a - b - 1) * den ≤ 2 ^ (a - b - 1) * 2 ^ (b + 1) := by gcongr
      _ = 2 ^ a := by rw [← zpow_add₀ two_ne_zero]; congr 1; ring
      _ ≤ num := hnum_low
  · calc (num : ℚ) < 2 ^ (a + 1) := hnum_high
      _ = 2 ^ (a - b + 1) * 2 ^ b := by rw [← zpow_add₀ two_ne_zero]; congr 1; ring
      _ ≤ 2 ^ (a - b + 1) * den := by gcongr

/-- **A positive number has 53 bits** before the place of its exponent. -/
theorem exponent_spec {q : ℚ} (hq : 0 < q) :
    (2 : ℚ) ^ (exponent q + 52) ≤ q ∧ q < 2 ^ (exponent q + 53) := by
  have hnum : 0 < q.num := Rat.num_pos.mpr hq
  have hnat : (q.num.natAbs : ℤ) = q.num := Int.natAbs_of_nonneg hnum.le
  have hmk : mkRat q.num.natAbs q.den = q := by rw [hnat, Rat.mkRat_self]
  have hdiv : (q.num.natAbs : ℚ) / q.den = q := by
    rw [← Int.cast_natCast, hnat]
    exact Rat.num_div_den q
  have hbounds := quotient_bounds (Int.natAbs_pos.mpr hnum.ne') q.den_pos
  rw [hdiv] at hbounds
  unfold exponent ulpExponent
  dsimp only
  rw [hmk]
  generalize (q.num.natAbs.log2 : ℤ) - q.den.log2 = e at *
  split_ifs with h
  · refine ⟨h, ?_⟩
    rw [show e - 52 + 53 = e + 1 by ring]
    exact hbounds.2
  · rw [show e - 52 - 1 + 52 = e - 1 by ring]
    refine ⟨hbounds.1, ?_⟩
    rwa [show e - 52 - 1 + 53 = e - 52 + 52 by ring, ← not_le]

theorem nearest_zero : nearest 0 = 0 := if_pos rfl

theorem nearest_of_pos {q : ℚ} (hq : 0 < q) :
    nearest q = roundEven (q / 2 ^ exponent q) * 2 ^ exponent q := by
  rw [nearest, if_neg hq.ne']
  rfl

theorem zpow_add_natCast (e : ℤ) (n : ℕ) : (2 : ℚ) ^ (e + n) = 2 ^ n * 2 ^ e := by
  rw [zpow_add₀ two_ne_zero, zpow_natCast, mul_comm]

/-- In units of its last bit a positive number lies between `2 ^ 52` and `2 ^ 53`. -/
theorem scaled_bounds {q : ℚ} (hq : 0 < q) :
    2 ^ 52 ≤ q / 2 ^ exponent q ∧ q / 2 ^ exponent q < 2 ^ 53 := by
  obtain ⟨hlow, hhigh⟩ := exponent_spec hq
  have hulp : (0 : ℚ) < 2 ^ exponent q := by positivity
  rw [le_div_iff₀ hulp, div_lt_iff₀ hulp, ← zpow_add_natCast, ← zpow_add_natCast]
  exact ⟨hlow, hhigh⟩

/-- A rounded number keeps its exponent, or is the power of two behind it. -/
theorem nearest_bounds {q : ℚ} (hq : 0 < q) :
    (2 : ℚ) ^ (exponent q + (52 : ℕ)) ≤ nearest q ∧
      nearest q ≤ 2 ^ (exponent q + (53 : ℕ)) := by
  obtain ⟨hlow, hhigh⟩ := scaled_bounds hq
  have hround52 : 2 ^ 52 ≤ roundEven (q / 2 ^ exponent q) := by
    rw [← roundEven_intCast (2 ^ 52)]
    exact roundEven_mono (by exact_mod_cast hlow)
  have hround53 : roundEven (q / 2 ^ exponent q) ≤ 2 ^ 53 := by
    rw [← roundEven_intCast (2 ^ 53)]
    exact roundEven_mono (by exact_mod_cast hhigh.le)
  rw [nearest_of_pos hq, zpow_add_natCast, zpow_add_natCast]
  constructor
  · gcongr
    exact_mod_cast hround52
  · gcongr
    exact_mod_cast hround53

theorem nearest_nonneg {q : ℚ} (hq : 0 ≤ q) : 0 ≤ nearest q := by
  rcases eq_or_lt_of_le hq with rfl | hpos
  · rw [nearest_zero]
  · have h := (nearest_bounds hpos).1
    have hpow : (0 : ℚ) < 2 ^ (exponent q + (52 : ℕ)) := by positivity
    exact hpow.le.trans h

theorem exponent_mono {a b : ℚ} (ha : 0 < a) (h : a ≤ b) : exponent a ≤ exponent b := by
  have hlow := (exponent_spec ha).1
  have hhigh := (exponent_spec (ha.trans_le h)).2
  have hlt : (2 : ℚ) ^ (exponent a + 52) < 2 ^ (exponent b + 53) := by linarith
  have := (zpow_lt_zpow_iff_right₀ one_lt_two).mp hlt
  omega

/-- **Rounding keeps the order.** -/
theorem nearest_mono {a b : ℚ} (ha : 0 ≤ a) (h : a ≤ b) : nearest a ≤ nearest b := by
  rcases eq_or_lt_of_le ha with rfl | hpos
  · rw [nearest_zero]
    exact nearest_nonneg h
  rcases eq_or_lt_of_le (exponent_mono hpos h) with heq | hlt
  · rw [nearest_of_pos hpos, nearest_of_pos (hpos.trans_le h), heq]
    have hdiv : a / 2 ^ exponent b ≤ b / 2 ^ exponent b := by gcongr
    have hround := roundEven_mono hdiv
    gcongr
  · -- a power of two stands between the two
    calc nearest a ≤ 2 ^ (exponent a + (53 : ℕ)) := (nearest_bounds hpos).2
      _ ≤ 2 ^ (exponent b + (52 : ℕ)) := zpow_le_zpow_right₀ one_le_two (by omega)
      _ ≤ nearest b := (nearest_bounds (hpos.trans_le h)).1

/-- **Integers of at most 53 bits are kept.** -/
theorem nearest_natCast {n : ℕ} (hn : n < 2 ^ 53) : nearest n = n := by
  rcases Nat.eq_zero_or_pos n with rfl | hpos
  · rw [Nat.cast_zero, nearest_zero]
  have hpos' : (0 : ℚ) < n := by exact_mod_cast hpos
  have hlt : (2 : ℚ) ^ (exponent n + 52) < 2 ^ (53 : ℤ) :=
    (exponent_spec hpos').1.trans_lt (by exact_mod_cast hn)
  have hle : exponent n ≤ 0 := by
    have := (zpow_lt_zpow_iff_right₀ one_lt_two).mp hlt
    omega
  obtain ⟨k, hk⟩ : ∃ k : ℕ, exponent n = -(k : ℤ) := ⟨(-exponent n).toNat, by omega⟩
  have hdiv : (n : ℚ) / 2 ^ (-(k : ℤ)) = ((n * 2 ^ k : ℤ) : ℚ) := by
    rw [zpow_neg, div_inv_eq_mul, zpow_natCast]
    push_cast
    ring
  rw [nearest_of_pos hpos', hk, hdiv, roundEven_intCast, ← hdiv]
  exact div_mul_cancel₀ _ (by positivity)

theorem nearest_le_natCast {q : ℚ} {n : ℕ} (hn : n < 2 ^ 53) (hq : 0 ≤ q) (h : q ≤ n) :
    nearest q ≤ n := by
  rw [← nearest_natCast hn]
  exact nearest_mono hq h

theorem natCast_le_nearest {q : ℚ} {n : ℕ} (hn : n < 2 ^ 53) (h : n ≤ q) : n ≤ nearest q := by
  rw [← nearest_natCast hn]
  exact nearest_mono (Nat.cast_nonneg n) h

/-- **The error of rounding**, relative to the number, is at most `2 ^ -53`. -/
theorem abs_nearest_sub_le {q : ℚ} (hq : 0 ≤ q) : |nearest q - q| ≤ q / 2 ^ 53 := by
  rcases eq_or_lt_of_le hq with rfl | hpos
  · rw [nearest_zero]
    norm_num
  have hulp : (0 : ℚ) < 2 ^ exponent q := by positivity
  have hsplit : nearest q - q =
      (roundEven (q / 2 ^ exponent q) - q / 2 ^ exponent q) * 2 ^ exponent q := by
    rw [nearest_of_pos hpos, sub_mul, div_mul_cancel₀ _ hulp.ne']
  have hlow := (scaled_bounds hpos).1
  rw [le_div_iff₀ hulp] at hlow
  calc |nearest q - q| = |(roundEven (q / 2 ^ exponent q) : ℚ) - q / 2 ^ exponent q| *
        2 ^ exponent q := by rw [hsplit, abs_mul, abs_of_pos hulp]
    _ ≤ 1 / 2 * 2 ^ exponent q := by
        have := abs_roundEven_sub_le (q / 2 ^ exponent q)
        gcongr
    _ ≤ q / 2 ^ 53 := by
        rw [le_div_iff₀ (by positivity)]
        linarith

/-! ## Half away from zero -/

theorem roundHalfAway_of_nonneg {q : ℚ} (hq : 0 ≤ q) : roundHalfAway q = ⌊q + 1 / 2⌋ := if_pos hq

theorem roundHalfAway_nonneg {q : ℚ} (hq : 0 ≤ q) : 0 ≤ roundHalfAway q := by
  rw [roundHalfAway_of_nonneg hq]
  exact Int.floor_nonneg.mpr (by linarith)

theorem roundHalfAway_le {q : ℚ} {n : ℤ} (hq : 0 ≤ q) (h : q ≤ n) : roundHalfAway q ≤ n := by
  have hlt : ⌊q + 1 / 2⌋ < n + 1 := Int.floor_lt.mpr (by push_cast; linarith)
  rw [roundHalfAway_of_nonneg hq]
  omega

/-- Numbers one apart stay one apart. -/
theorem roundHalfAway_succ_le {a b : ℚ} (ha : 0 ≤ a) (h : a + 1 ≤ b) :
    roundHalfAway a + 1 ≤ roundHalfAway b := by
  rw [roundHalfAway_of_nonneg ha, roundHalfAway_of_nonneg (by linarith), Int.le_floor]
  have hfloor : (⌊a + 1 / 2⌋ : ℚ) ≤ a + 1 / 2 := Int.floor_le _
  push_cast
  linarith

end PostingRules.Binary64
