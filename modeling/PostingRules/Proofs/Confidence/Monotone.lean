import PostingRules.Proofs.Confidence.Score

/-!
# How the confidence follows the priorities

* `roundHalfAway_mono`, `roundHalfAway_eq_of_close`: rounding keeps the order, and finds an integer
  less than a half away;
* `share`: the share of a priority in the highest one, which grows with the first and falls with the
  second;
* `score_le_of_baseScore_le`: a larger base gives no smaller confidence;
* `score_of_baseScore_eq`: the confidence of a base whose weight is an integer;
* **`score_follows_priorities`**: the confidence grows with the priority and falls with the highest
  one, between its values for no priority and for the highest.
-/

namespace PostingRules

open Binary64

/-! ## Half away from zero -/

namespace Binary64

theorem roundHalfAway_mono {a b : ℚ} (ha : 0 ≤ a) (h : a ≤ b) : roundHalfAway a ≤ roundHalfAway b := by
  rw [roundHalfAway_of_nonneg ha, roundHalfAway_of_nonneg (ha.trans h)]
  exact Int.floor_le_floor (by linarith)

/-- An integer less than a half away is found. -/
theorem roundHalfAway_eq_of_close {q : ℚ} {n : ℤ} (hq : 0 ≤ q) (h : |q - n| < 1 / 2) :
    roundHalfAway q = n := by
  obtain ⟨hlow, hhigh⟩ := abs_lt.mp h
  rw [roundHalfAway_of_nonneg hq, Int.floor_eq_iff]
  constructor <;> linarith

theorem roundHalfAway_natCast (n : ℕ) : roundHalfAway n = n :=
  roundHalfAway_eq_of_close (Nat.cast_nonneg n) (by simp)

theorem nearest_intCast_pos {n : ℤ} (hn : 0 < n) : 0 < nearest (n : ℚ) := by
  have hone : ((1 : ℕ) : ℚ) ≤ n := by exact_mod_cast hn
  have hle := natCast_le_nearest (n := 1) (by norm_num) hone
  push_cast at hle
  linarith

end Binary64

/-! ## Shares -/

variable {p q m n : ℤ}

/-- The share of a priority in the highest one. -/
def share (p top : ℤ) : ℚ := nearest (nearest p / nearest top)

theorem baseScore_of_pos (hm : 0 < m) :
    baseScore p m = nearest (40 + nearest (share p m * 60)) := if_pos hm

theorem quotient_nonneg (hp : 0 ≤ p) (hm : 0 < m) : 0 ≤ nearest (p : ℚ) / nearest m :=
  div_nonneg (nearest_nonneg (by exact_mod_cast hp)) (nearest_intCast_pos hm).le

theorem share_nonneg (hp : 0 ≤ p) (hm : 0 < m) : 0 ≤ share p m := nearest_nonneg (quotient_nonneg hp hm)

/-- **The share grows** with the priority. -/
theorem share_mono (hp : 0 ≤ p) (hpq : p ≤ q) (hm : 0 < m) : share p m ≤ share q m := by
  have hle : nearest (p : ℚ) ≤ nearest q :=
    nearest_mono (by exact_mod_cast hp) (by exact_mod_cast hpq)
  have hpos := nearest_intCast_pos hm
  refine nearest_mono (quotient_nonneg hp hm) ?_
  gcongr

/-- **The share falls** with the highest priority. -/
theorem share_anti (hp : 0 ≤ p) (hm : 0 < m) (hmn : m ≤ n) : share p n ≤ share p m := by
  have hm' : (0 : ℚ) ≤ m := by exact_mod_cast hm.le
  have hle : nearest (m : ℚ) ≤ nearest n := nearest_mono hm' (by exact_mod_cast hmn)
  have hpos := nearest_intCast_pos hm
  have hnum : 0 ≤ nearest (p : ℚ) := nearest_nonneg (by exact_mod_cast hp)
  refine nearest_mono (quotient_nonneg hp (hm.trans_le hmn)) ?_
  gcongr

theorem share_zero (m : ℤ) : share 0 m = 0 := by
  rw [share, Int.cast_zero, nearest_zero, zero_div, nearest_zero]

theorem share_self (hm : 0 < m) : share m m = 1 := by
  rw [share, div_self (nearest_intCast_pos hm).ne']
  exact_mod_cast nearest_natCast (n := 1) (by norm_num)

/-! ## Bases -/

/-- A larger share gives no smaller base. -/
theorem baseScore_le_of_share_le (hp : 0 ≤ p) (hm : 0 < m) (hn : 0 < n)
    (h : share p m ≤ share q n) : baseScore p m ≤ baseScore q n := by
  have hshare := share_nonneg hp hm
  have hscaled : 0 ≤ share p m * 60 := by positivity
  have hle : nearest (share p m * 60) ≤ nearest (share q n * 60) := nearest_mono hscaled (by gcongr)
  have hpart := nearest_nonneg hscaled
  rw [baseScore_of_pos hm, baseScore_of_pos hn]
  exact nearest_mono (by positivity) (by gcongr)

theorem baseScore_zero (hm : 0 < m) : baseScore 0 m = (40 : ℕ) := by
  rw [baseScore_of_pos hm, share_zero, zero_mul, nearest_zero, add_zero]
  exact nearest_natCast (n := 40) (by norm_num)

theorem baseScore_self (hm : 0 < m) : baseScore m m = (100 : ℕ) := by
  have hsixty : nearest 60 = 60 := by exact_mod_cast nearest_natCast (n := 60) (by norm_num)
  rw [baseScore_of_pos hm, share_self hm, one_mul, hsixty]
  norm_num
  exact_mod_cast nearest_natCast (n := 100) (by norm_num)

/-! ## Confidences -/

/-- **A larger base** gives no smaller confidence. -/
theorem score_le_of_baseScore_le (k : ConditionKind) (hbase : 0 ≤ baseScore p m)
    (h : baseScore p m ≤ baseScore q n) : score k p m ≤ score k q n := by
  have hs := specificity_nonneg k
  have hprod : 0 ≤ baseScore p m * k.specificity := mul_nonneg hbase hs
  have hle : weighed k p m ≤ weighed k q n := nearest_mono hprod (by gcongr)
  have hround := roundHalfAway_mono (nearest_nonneg hprod) hle
  rw [score_eq, score_eq]
  change roundHalfAway (weighed k p m) ≤ _ at hround
  omega

/-- What is rounded to a confidence is the percentage of the base, but for rounding. -/
theorem abs_weighed_sub_le (k : ConditionKind) {b : ℕ} (hb : baseScore p m = b) (hle : b ≤ 100) :
    |weighed k p m - b * (k.percent / 100)| ≤ 1 / 4 := by
  have hb0 : (0 : ℚ) ≤ b := Nat.cast_nonneg b
  have hb100 : (b : ℚ) ≤ 100 := by exact_mod_cast hle
  have hs := specificity_nonneg k
  have hs' := specificity_le_one k
  have hweight := abs_le.mp (abs_specificity_sub_le k)
  have hround := abs_le.mp (abs_nearest_sub_le (mul_nonneg hb0 hs))
  rw [weighed, hb, abs_le]
  norm_num at hweight hround
  constructor <;> nlinarith

/-- **The confidence of a base** whose weight is an integer. -/
theorem score_of_baseScore_eq (k : ConditionKind) {b c : ℕ} (hb : baseScore p m = b) (hle : b ≤ 100)
    (hc : b * k.percent = 100 * c) : score k p m = c := by
  have hc' : (b : ℚ) * (k.percent / 100) = c := by
    have hcast : (b : ℚ) * k.percent = 100 * c := by exact_mod_cast hc
    rw [← mul_div_assoc, hcast]
    ring
  have hc100 : c ≤ 100 := by
    have := percent_le k
    nlinarith
  have hclose := abs_weighed_sub_le k hb hle
  rw [hc'] at hclose
  have hnonneg : 0 ≤ weighed k p m := by
    rw [weighed, hb]
    exact nearest_nonneg (mul_nonneg (Nat.cast_nonneg b) (specificity_nonneg k))
  have hround : roundHalfAway (weighed k p m) = c :=
    roundHalfAway_eq_of_close hnonneg (by push_cast; linarith)
  rw [score_eq, hround]
  omega

theorem five_dvd_percent (k : ConditionKind) : 5 ∣ k.percent := by cases k <;> decide

/-- For no priority the confidence is 40 per cent of the weight. -/
theorem score_zero (k : ConditionKind) (hm : 0 < m) :
    (score k 0 m : ℤ) = roundHalfAway (40 * (k.percent / 100)) := by
  obtain ⟨c, hc⟩ := five_dvd_percent k
  have hscore : score k 0 m = 2 * c :=
    score_of_baseScore_eq k (baseScore_zero hm) (by norm_num) (by omega)
  have hweight : (40 : ℚ) * (k.percent / 100) = (2 * c : ℕ) := by
    rw [hc]
    push_cast
    ring
  rw [hscore, hweight, roundHalfAway_natCast]

/-- For the highest priority the confidence is the weight. -/
theorem score_self (k : ConditionKind) (hm : 0 < m) :
    (score k m m : ℤ) = roundHalfAway (100 * (k.percent / 100)) := by
  have hscore : score k m m = k.percent :=
    score_of_baseScore_eq k (baseScore_self hm) le_rfl rfl
  rw [hscore, mul_div_cancel₀ _ (by norm_num), roundHalfAway_natCast]

/-- **The confidence grows with the priority and falls with the highest one.** It lies between the
confidences for no priority and for the highest, which are 40 and 100 times the weight, rounded. -/
theorem score_follows_priorities (k : ConditionKind) (hp : 0 ≤ p) (hpq : p ≤ q) (hqm : q ≤ m)
    (hmn : m ≤ n) (hm : 0 < m) :
    score k p m ≤ score k q m ∧ score k p n ≤ score k p m ∧
      (score k 0 m ≤ score k p m ∧ score k p m ≤ score k m m) ∧
      (score k 0 m : ℤ) = roundHalfAway (40 * (k.percent / 100)) ∧
      (score k m m : ℤ) = roundHalfAway (100 * (k.percent / 100)) := by
  have hn : 0 < n := hm.trans_le hmn
  have hgrows : ∀ {a b : ℤ}, 0 ≤ a → a ≤ b → b ≤ m → score k a m ≤ score k b m := by
    intro a b ha hab hbm
    have hbase := (baseScore_bounds ha (hab.trans hbm)).1
    exact score_le_of_baseScore_le k (by linarith)
      (baseScore_le_of_share_le ha hm hm (share_mono ha hab hm))
  have hfalls : score k p n ≤ score k p m := by
    have hbase := (baseScore_bounds hp ((hpq.trans hqm).trans hmn)).1
    exact score_le_of_baseScore_le k (by linarith)
      (baseScore_le_of_share_le hp hn hm (share_anti hp hm hmn))
  exact ⟨hgrows hp hpq hqm, hfalls, ⟨hgrows le_rfl hp (hpq.trans hqm), hgrows hp (hpq.trans hqm) le_rfl⟩,
    score_zero k hm, score_self k hm⟩

/-- Priorities that no double holds exactly. -/
theorem score_follows_priorities_large :
    ((0 : ℤ) ≤ 9007199254740993 ∧ (9007199254740993 : ℤ) ≤ 4611686018427387905 ∧
      (4611686018427387905 : ℤ) ≤ 9223372036854775806 ∧
      (9223372036854775806 : ℤ) ≤ 9223372036854775807 ∧ (0 : ℤ) < 9223372036854775806) ∧
    score .contains 9007199254740993 9223372036854775806 ≤
        score .contains 4611686018427387905 9223372036854775806 ∧
      score .contains 9007199254740993 9223372036854775807 ≤
        score .contains 9007199254740993 9223372036854775806 ∧
      (score .contains 0 9223372036854775806 ≤ score .contains 9007199254740993 9223372036854775806 ∧
        score .contains 9007199254740993 9223372036854775806 ≤
          score .contains 9223372036854775806 9223372036854775806) ∧
      (score .contains 0 9223372036854775806 : ℤ) = roundHalfAway (40 * ((75 : ℕ) / 100)) ∧
      (score .contains 9223372036854775806 9223372036854775806 : ℤ) =
        roundHalfAway (100 * ((75 : ℕ) / 100)) :=
  ⟨by norm_num, score_follows_priorities (p := 9007199254740993) (q := 4611686018427387905)
    (m := 9223372036854775806) (n := 9223372036854775807) .contains (by norm_num) (by norm_num)
    (by norm_num) (by norm_num) (by norm_num)⟩

end PostingRules
