import PostingRules.Confidence.Score
import PostingRules.Proofs.Confidence.Rounding
import Mathlib.Tactic.NormNum

/-!
# Which of two matches is the more confident

* `abs_specificity_sub_le`, `specificity_gap`: the weights are the percentages up to rounding, and
  two of them are far apart;
* `baseScore_bounds`: the base of a confidence lies between 40 and 100;
* `weighed`, `weighed_gap`: what is rounded to a confidence, and that rounding merges no two;
* `score_lt_score`: at one priority the narrower kind of condition has the higher confidence;
* **`score_le_score_iff`**: whatever the highest priority is, confidences at one priority compare as
  the weights of the kinds do.
-/

namespace PostingRules

open Binary64

/-! ## Weights -/

theorem percent_le (k : ConditionKind) : k.percent ≤ 100 := by cases k <;> decide

theorem percent_gap {k k' : ConditionKind} (h : k.percent < k'.percent) :
    k.percent + 5 ≤ k'.percent := by
  revert h
  cases k <;> cases k' <;> decide

theorem specificity_eq_nearest (k : ConditionKind) :
    k.specificity = nearest ((k.percent : ℚ) / 100) := by
  rw [ConditionKind.specificity, Rat.mkRat_eq_div]
  norm_num

/-- **The weight of a kind** is its percentage, but for rounding. -/
theorem abs_specificity_sub_le (k : ConditionKind) :
    |k.specificity - (k.percent : ℚ) / 100| ≤ 1 / 2 ^ 53 := by
  have hle : (k.percent : ℚ) ≤ 100 := by exact_mod_cast percent_le k
  have herror := abs_nearest_sub_le (q := (k.percent : ℚ) / 100) (by positivity)
  rw [specificity_eq_nearest]
  refine herror.trans ?_
  gcongr
  linarith

theorem specificity_nonneg (k : ConditionKind) : 0 ≤ k.specificity := by
  rw [specificity_eq_nearest]
  exact nearest_nonneg (by positivity)

theorem specificity_le_one (k : ConditionKind) : k.specificity ≤ 1 := by
  have hle : (k.percent : ℚ) ≤ 100 := by exact_mod_cast percent_le k
  rw [specificity_eq_nearest]
  exact_mod_cast nearest_le_natCast (n := 1) (by norm_num) (by positivity) (by push_cast; linarith)

/-- Two weights that differ are far apart. -/
theorem specificity_gap {k k' : ConditionKind} (h : k.percent < k'.percent) :
    k.specificity + 1 / 25 ≤ k'.specificity := by
  have hk := abs_le.mp (abs_specificity_sub_le k)
  have hk' := abs_le.mp (abs_specificity_sub_le k')
  have hgap : (k.percent : ℚ) + 5 ≤ k'.percent := by exact_mod_cast percent_gap h
  norm_num at hk hk'
  linarith

theorem specificity_eq {k k' : ConditionKind} (h : k.percent = k'.percent) :
    k.specificity = k'.specificity := by
  rw [ConditionKind.specificity, ConditionKind.specificity, h]

/-! ## Shares -/

variable {p top : ℤ}

/-- The share of a priority in the highest one, as a number from 0 to 60. -/
theorem share_bounds (hp : 0 ≤ p) (htop : p ≤ top) :
    0 ≤ nearest (nearest (nearest p / nearest top) * 60) ∧
      nearest (nearest (nearest p / nearest top) * 60) ≤ 60 := by
  have hp' : (0 : ℚ) ≤ p := by exact_mod_cast hp
  have hle : nearest (p : ℚ) ≤ nearest top := nearest_mono hp' (by exact_mod_cast htop)
  have htop' : 0 ≤ nearest (top : ℚ) := (nearest_nonneg hp').trans hle
  have hquot : 0 ≤ nearest (p : ℚ) / nearest top := div_nonneg (nearest_nonneg hp') htop'
  have hquot' : nearest (p : ℚ) / nearest top ≤ (1 : ℕ) := by
    rw [Nat.cast_one]
    exact div_le_one_of_le₀ hle htop'
  have hone : nearest (nearest (p : ℚ) / nearest top) ≤ (1 : ℕ) :=
    nearest_le_natCast (by norm_num) hquot hquot'
  have hscaled : 0 ≤ nearest (nearest (p : ℚ) / nearest top) * 60 :=
    mul_nonneg (nearest_nonneg hquot) (by norm_num)
  refine ⟨nearest_nonneg hscaled, ?_⟩
  refine nearest_le_natCast (n := 60) (by norm_num) hscaled ?_
  push_cast at hone ⊢
  linarith

/-- **The base of a confidence** lies between 40 and 100. -/
theorem baseScore_bounds (hp : 0 ≤ p) (htop : p ≤ top) :
    40 ≤ baseScore p top ∧ baseScore p top ≤ 100 := by
  obtain ⟨hlow, hhigh⟩ := share_bounds hp htop
  unfold baseScore
  split_ifs
  · constructor
    · refine natCast_le_nearest (n := 40) (by norm_num) ?_
      push_cast
      linarith
    · refine nearest_le_natCast (n := 100) (by norm_num) (by linarith) ?_
      push_cast
      linarith
  · norm_num

/-! ## Confidences -/

/-- What is rounded to a confidence. -/
def weighed (k : ConditionKind) (p top : ℤ) : ℚ := nearest (baseScore p top * k.specificity)

theorem score_eq (k : ConditionKind) (p top : ℤ) :
    score k p top = (max 0 (min 100 (roundHalfAway (weighed k p top)))).toNat := rfl

theorem weighed_bounds (k : ConditionKind) (hp : 0 ≤ p) (htop : p ≤ top) :
    0 ≤ weighed k p top ∧ weighed k p top ≤ 100 := by
  obtain ⟨hlow, hhigh⟩ := baseScore_bounds hp htop
  have hs := specificity_nonneg k
  have hs' := specificity_le_one k
  have hprod : 0 ≤ baseScore p top * k.specificity := mul_nonneg (by linarith) hs
  refine ⟨nearest_nonneg hprod, nearest_le_natCast (n := 100) (by norm_num) hprod ?_⟩
  push_cast
  nlinarith

/-- What is rounded to the confidences of two kinds is more than one apart. -/
theorem weighed_gap {k k' : ConditionKind} (hp : 0 ≤ p) (htop : p ≤ top)
    (h : k.percent < k'.percent) : weighed k p top + 1 ≤ weighed k' p top := by
  obtain ⟨hlow, hhigh⟩ := baseScore_bounds hp htop
  have hgap := specificity_gap h
  have hs := specificity_nonneg k
  have hs' := specificity_le_one k'
  have hprod : 0 ≤ baseScore p top * k.specificity := mul_nonneg (by linarith) hs
  have happart : baseScore p top * k.specificity + 8 / 5 ≤ baseScore p top * k'.specificity := by
    nlinarith
  have hmost : baseScore p top * k'.specificity ≤ 100 := by nlinarith
  -- rounding moves each product by far less than the products are apart
  have herror := abs_le.mp (abs_nearest_sub_le hprod)
  have herror' := abs_le.mp (abs_nearest_sub_le (hprod.trans (by linarith) :
    0 ≤ baseScore p top * k'.specificity))
  unfold weighed
  norm_num at herror herror'
  linarith

/-- **The narrower kind** has the higher confidence at one priority. -/
theorem score_lt_score {k k' : ConditionKind} (hp : 0 ≤ p) (htop : p ≤ top)
    (h : k.percent < k'.percent) : score k p top < score k' p top := by
  have hnonneg := (weighed_bounds k hp htop).1
  obtain ⟨hnonneg', hmost⟩ := weighed_bounds k' hp htop
  have hpos := roundHalfAway_nonneg hnonneg
  have hsucc := roundHalfAway_succ_le hnonneg (weighed_gap hp htop h)
  have hle : roundHalfAway (weighed k' p top) ≤ 100 := roundHalfAway_le hnonneg' hmost
  rw [score_eq, score_eq]
  omega

/-- **Confidences at one priority** compare as the weights of the kinds do. -/
theorem score_le_score_iff {k k' : ConditionKind} (hp : 0 ≤ p) (htop : p ≤ top) :
    score k p top ≤ score k' p top ↔ k.specificity ≤ k'.specificity := by
  rcases lt_trichotomy k.percent k'.percent with h | h | h
  · have hgap := specificity_gap h
    exact iff_of_true (score_lt_score hp htop h).le (by linarith)
  · have hscore : score k p top = score k' p top := by
      rw [score, score, specificity_eq h]
    exact iff_of_true hscore.le (specificity_eq h).le
  · have hgap := specificity_gap h
    exact iff_of_false (score_lt_score hp htop h).not_ge (by linarith)

end PostingRules
