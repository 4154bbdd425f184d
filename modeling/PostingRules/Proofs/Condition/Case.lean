import PostingRules.Proofs.Condition
import PostingRules.Proofs.Text.CaseRuns

/-!
# Conditions on texts and letter case

A condition on texts knows its value and the description by their lower-case forms alone.

* `holds_congr_of_lowerList`: texts with the same lower-case form are the same to it;
* **`holds_lower`**: lower-casing the value, or the description, changes no answer.
-/

namespace PostingRules

open PostingRules.Text

/-- **Texts with the same lower-case form** are the same to a condition on texts. -/
theorem holds_congr_of_lowerList {k : ConditionKind} (hk : IsOnText k) {v v' d d' : String}
    (hv : lowerList v.toList = lowerList v'.toList) (hd : lowerList d.toList = lowerList d'.toList)
    (x : Decimal) : k.holds v ⟨d, x⟩ = k.holds v' ⟨d', x⟩ := by
  rcases hk with rfl | rfl | rfl | rfl <;> simp only [ConditionKind.holds, hv, hd]

theorem lowerList_lower (s : String) : lowerList (lower s).toList = lowerList s.toList := by
  rw [lower, String.toList_ofList, lowerList_lowerList]

/-- **Lower-casing changes no answer** of a condition on texts, neither of the value nor of the
description. -/
theorem holds_lower {k : ConditionKind} (hk : IsOnText k) (v d : String) (x : Decimal) :
    k.holds (lower v) ⟨d, x⟩ = k.holds v ⟨d, x⟩ ∧ k.holds v ⟨lower d, x⟩ = k.holds v ⟨d, x⟩ :=
  ⟨holds_congr_of_lowerList hk (lowerList_lower v) rfl x,
    holds_congr_of_lowerList hk rfl (lowerList_lower d) x⟩

/-- A final sigma, and a letter whose lower-case form is two characters. -/
theorem holds_lower_finalSigma : IsOnText .endsWith ∧
    ConditionKind.endsWith.holds (lower "İΣ") ⟨"ΟΔΟΣ İΣ", .zero⟩ =
      ConditionKind.endsWith.holds "İΣ" ⟨"ΟΔΟΣ İΣ", .zero⟩ ∧
    ConditionKind.endsWith.holds "İΣ" ⟨lower "ΟΔΟΣ İΣ", .zero⟩ =
      ConditionKind.endsWith.holds "İΣ" ⟨"ΟΔΟΣ İΣ", .zero⟩ :=
  have hk : IsOnText .endsWith := by simp [IsOnText]
  ⟨hk, holds_lower hk "İΣ" "ΟΔΟΣ İΣ" .zero⟩

end PostingRules
