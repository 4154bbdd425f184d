import PostingRules.Rule.Condition
import PostingRules.Proofs.Decimal

/-!
# Which conditions can never hold

* `AsksBeyond`: a condition on amounts whose limit is an end of the decimal numbers;
* `exists_holds_amountGt_iff`, `exists_holds_amountLt_iff`, `exists_holds_amountRange_iff`,
  `holds_self_of_isOnText`: which conditions hold of some transaction;
* `check_eq_ok_of_holds`: a condition that holds of a transaction has no reason why it never does;
* **`exists_holds_iff_of_check`**: the reasons are right, and but for patterns and for limits at the
  ends of the decimal numbers there are no others.
-/

namespace PostingRules

open PostingRules.Text

/-- The condition asks for an amount above the largest one or below the smallest one. -/
def AsksBeyond (k : ConditionKind) (v : String) : Prop :=
  (k = .amountGt ∧ threshold? v = some .largest) ∨ (k = .amountLt ∧ threshold? v = some .smallest)

instance (k : ConditionKind) (v : String) : Decidable (AsksBeyond k v) :=
  inferInstanceAs (Decidable ((k = .amountGt ∧ threshold? v = some .largest) ∨
    (k = .amountLt ∧ threshold? v = some .smallest)))

/-! ## Conditions on amounts -/

variable {v : String} {t : Transaction}

theorem holds_amountGt_iff :
    ConditionKind.amountGt.holds v t = true ↔ ∃ a, threshold? v = some a ∧ a < t.amount := by
  simp [ConditionKind.holds, Option.any_eq_true]

theorem holds_amountLt_iff :
    ConditionKind.amountLt.holds v t = true ↔ ∃ a, threshold? v = some a ∧ t.amount < a := by
  simp [ConditionKind.holds, Option.any_eq_true]

theorem holds_amountRange_iff : ConditionKind.amountRange.holds v t = true ↔
    ∃ a b, bounds? v = some (a, b) ∧ a ≤ t.amount ∧ t.amount ≤ b := by
  simp [ConditionKind.holds, Option.any_eq_true]

theorem exists_holds_amountGt_iff : (∃ t, ConditionKind.amountGt.holds v t = true) ↔
    ∃ a, threshold? v = some a ∧ a ≠ .largest := by
  simp only [holds_amountGt_iff]
  constructor
  · rintro ⟨t, a, ha, hlt⟩
    refine ⟨a, ha, ?_⟩
    rintro rfl
    exact Decimal.not_lt_iff.mpr (Decimal.le_largest _) hlt
  · rintro ⟨a, ha, hne⟩
    exact ⟨⟨"", .largest⟩, a, ha, Decimal.lt_largest_iff.mpr hne⟩

theorem exists_holds_amountLt_iff : (∃ t, ConditionKind.amountLt.holds v t = true) ↔
    ∃ a, threshold? v = some a ∧ a ≠ .smallest := by
  simp only [holds_amountLt_iff]
  constructor
  · rintro ⟨t, a, ha, hlt⟩
    refine ⟨a, ha, ?_⟩
    rintro rfl
    exact Decimal.not_lt_iff.mpr (Decimal.smallest_le _) hlt
  · rintro ⟨a, ha, hne⟩
    exact ⟨⟨"", .smallest⟩, a, ha, Decimal.smallest_lt_iff.mpr hne⟩

theorem exists_holds_amountRange_iff : (∃ t, ConditionKind.amountRange.holds v t = true) ↔
    ∃ a b, bounds? v = some (a, b) ∧ a ≤ b := by
  simp only [holds_amountRange_iff]
  constructor
  · rintro ⟨t, a, b, hv, hat, htb⟩
    rw [Decimal.le_iff_value_le] at hat htb
    exact ⟨a, b, hv, Decimal.le_iff_value_le.mpr (hat.trans htb)⟩
  · rintro ⟨a, b, hv, hab⟩
    exact ⟨⟨"", a⟩, a, b, hv, Decimal.le_iff_value_le.mpr le_rfl, hab⟩

/-! ## Conditions on texts -/

/-- The condition compares texts. -/
def IsOnText (k : ConditionKind) : Prop :=
  k = .contains ∨ k = .equals ∨ k = .startsWith ∨ k = .endsWith

theorem isInfixOf_self (cs : List Char) : isInfixOf cs cs = true := by
  cases cs with
  | nil => rfl
  | cons c cs =>
    rw [isInfixOf, List.isPrefixOf_iff_prefix.mpr (List.prefix_refl _)]
    rfl

/-- **A condition on texts holds of its own value.** -/
theorem holds_self_of_isOnText {k : ConditionKind} (hk : IsOnText k) (v : String) (x : Decimal) :
    k.holds v ⟨v, x⟩ = true := by
  rcases hk with rfl | rfl | rfl | rfl
  · exact isInfixOf_self _
  · exact decide_eq_true rfl
  · exact List.isPrefixOf_iff_prefix.mpr (List.prefix_refl _)
  · exact List.isSuffixOf_iff_suffix.mpr (List.suffix_refl _)

/-! ## Reasons -/

theorem check_regex_eq_ok_iff : ConditionKind.regex.check v = .ok () ↔
    Guard.isSafe v.toList = true ∧ ∃ p, Pattern.read? v.toList = some p := by
  rw [ConditionKind.check, Guard.isSafe, ← Option.isSome_iff_exists]
  cases Guard.rejection? v.toList <;> cases Pattern.read? v.toList <;> simp

theorem check_amountGt_eq_ok_iff :
    ConditionKind.amountGt.check v = .ok () ↔ ∃ a, threshold? v = some a := by
  rw [ConditionKind.check]
  cases threshold? v <;> simp

theorem check_amountLt_eq_ok_iff :
    ConditionKind.amountLt.check v = .ok () ↔ ∃ a, threshold? v = some a :=
  check_amountGt_eq_ok_iff

theorem check_amountRange_eq_ok_iff : ConditionKind.amountRange.check v = .ok () ↔
    ∃ a b, bounds? v = some (a, b) ∧ a ≤ b := by
  rw [ConditionKind.check]
  cases bounds? v with
  | none => simp
  | some p =>
    obtain ⟨a, b⟩ := p
    by_cases h : b < a <;> simp [h, ← Decimal.not_lt_iff]

theorem check_eq_ok_of_isOnText {k : ConditionKind} (hk : IsOnText k) (v : String) :
    k.check v = .ok () := by
  rcases hk with rfl | rfl | rfl | rfl <;> rfl

/-- **A condition that holds** of a transaction has no reason why it never does. -/
theorem check_eq_ok_of_holds {k : ConditionKind} (h : k.holds v t = true) : k.check v = .ok () := by
  cases k with
  | contains | equals | startsWith | endsWith =>
    exact check_eq_ok_of_isOnText (by simp [IsOnText]) v
  | regex =>
    rw [ConditionKind.holds, regexHolds, Bool.and_eq_true] at h
    refine check_regex_eq_ok_iff.mpr ⟨h.1, ?_⟩
    cases hp : Pattern.read? v.toList with
    | none => simp [hp] at h
    | some p => exact ⟨p, rfl⟩
  | amountGt =>
    obtain ⟨a, ha, -⟩ := holds_amountGt_iff.mp h
    exact check_amountGt_eq_ok_iff.mpr ⟨a, ha⟩
  | amountLt =>
    obtain ⟨a, ha, -⟩ := holds_amountLt_iff.mp h
    exact check_amountLt_eq_ok_iff.mpr ⟨a, ha⟩
  | amountRange => exact check_amountRange_eq_ok_iff.mpr (exists_holds_amountRange_iff.mp ⟨t, h⟩)

theorem exists_holds_of_check {k : ConditionKind} (hk : k ≠ .regex) (h : k.check v = .ok ()) :
    (∃ t, k.holds v t = true) ↔ ¬ AsksBeyond k v := by
  cases k with
  | contains | equals | startsWith | endsWith =>
    refine iff_of_true ⟨⟨v, .zero⟩, holds_self_of_isOnText (by simp [IsOnText]) v .zero⟩ ?_
    simp [AsksBeyond]
  | regex => exact absurd rfl hk
  | amountGt =>
    obtain ⟨a, ha⟩ := check_amountGt_eq_ok_iff.mp h
    rw [exists_holds_amountGt_iff]
    simp [AsksBeyond, ha]
  | amountLt =>
    obtain ⟨a, ha⟩ := check_amountLt_eq_ok_iff.mp h
    rw [exists_holds_amountLt_iff]
    simp [AsksBeyond, ha]
  | amountRange =>
    rw [exists_holds_amountRange_iff]
    refine iff_of_true (check_amountRange_eq_ok_iff.mp h) ?_
    simp [AsksBeyond]

/-- **What is reported of a condition is right.** If there is a reason why it can never hold, it holds
of no transaction. If there is none, it holds of some transaction, unless it is a pattern, or its
limit is the largest number and it asks for more, or its limit is the smallest and it asks for
less. -/
theorem exists_holds_iff_of_check (k : ConditionKind) (v : String) :
    (∀ e, k.check v = .error e → ∀ t, k.holds v t = false) ∧
      (k ≠ .regex → k.check v = .ok () → ((∃ t, k.holds v t = true) ↔ ¬ AsksBeyond k v)) := by
  refine ⟨fun e he t => ?_, exists_holds_of_check⟩
  by_contra h
  rw [Bool.not_eq_false] at h
  rw [check_eq_ok_of_holds h] at he
  cases he

theorem exists_holds_iff_of_check_limits :
    ((∃ e, ConditionKind.amountRange.check "500,100" = .error e) ∧
        ∀ t, ConditionKind.amountRange.holds "500,100" t = false) ∧
      (ConditionKind.amountGt ≠ .regex ∧ ConditionKind.amountGt.check "1000" = .ok () ∧
        ∃ t, ConditionKind.amountGt.holds "1000" t = true) ∧
      (ConditionKind.amountGt.check "79228162514264337593543950335" = .ok () ∧
        ¬ ∃ t, ConditionKind.amountGt.holds "79228162514264337593543950335" t = true) := by
  have hrange : ConditionKind.amountRange.check "500,100" = .error
      (.emptyRange ⟨false, 500, 0, by decide, by decide⟩ ⟨false, 100, 0, by decide, by decide⟩) := by
    decide
  have hinner : ConditionKind.amountGt.check "1000" = .ok () := by decide
  have hend : ConditionKind.amountGt.check "79228162514264337593543950335" = .ok () := by decide
  refine ⟨⟨⟨_, hrange⟩, (exists_holds_iff_of_check .amountRange "500,100").1 _ hrange⟩,
    ⟨by decide, hinner, ?_⟩, hend, ?_⟩
  · exact ((exists_holds_iff_of_check .amountGt "1000").2 (by decide) hinner).mpr (by decide)
  · rw [(exists_holds_iff_of_check .amountGt _).2 (by decide) hend]
    decide

end PostingRules
