import PostingRules.Rule.Condition
import PostingRules.Proofs.Text.Lowercase

/-!
# Values that stand in a description

A condition on texts compares lower-case forms. A value that stands in a description as it is written
is found there but for its capital sigmas, whose lower-case form depends on where words end.

* `isInfixOf_iff`: when a text occurs in another;
* `holds_contains_of_keepsSigmas`, `holds_startsWith_iff`, `holds_endsWith_iff`: the three places where
  a value may stand;
* `misses_capital_sigma`: values that are missed;
* **`holds_of_occurrence`**: a value is found where it keeps its sigmas, and at the two ends of a
  description only there.
-/

namespace PostingRules

open PostingRules.Text

/-! ## Occurrences -/

theorem isInfixOf_iff {v cs : List Char} : isInfixOf v cs = true ↔ v <:+: cs := by
  induction cs with
  | nil => rw [isInfixOf, List.isEmpty_iff, List.infix_nil]
  | cons c cs ih =>
    rw [isInfixOf, Bool.or_eq_true, List.isPrefixOf_iff_prefix, ih, List.infix_cons_iff]

variable {v d : String}

/-- **A value is contained** in a description where it keeps its sigmas. -/
theorem holds_contains_of_keepsSigmas {front back : List Char}
    (hd : d.toList = front ++ v.toList ++ back) (h : KeepsSigmas front v.toList back) (x : Decimal) :
    ConditionKind.contains.holds v ⟨d, x⟩ = true := by
  refine isInfixOf_iff.mpr ⟨lowerBetween [] front (v.toList ++ back),
    lowerBetween (v.toList.reverse ++ front.reverse) back [], ?_⟩
  rw [hd, lowerList_framed, lowerBetween_eq_lowerList_iff.mpr h]

/-- **A description that starts with a value** is found to do so just if the value keeps its
sigmas. -/
theorem holds_startsWith_iff {back : List Char} (hd : d.toList = v.toList ++ back) (x : Decimal) :
    ConditionKind.startsWith.holds v ⟨d, x⟩ = true ↔ KeepsSigmas [] v.toList back := by
  rw [← lowerBetween_eq_lowerList_iff, ConditionKind.holds, List.isPrefixOf_iff_prefix, hd,
    lowerList_append, List.reverse_nil]
  constructor
  · rintro ⟨rest, hrest⟩
    have hlen : (lowerList v.toList).length = (lowerBetween [] v.toList back).length := by
      rw [lowerList, lowerAfter_eq_lowerBetween]
      exact length_lowerBetween [] [] _ [] back
    exact (List.append_inj hrest hlen).1.symm
  · intro h
    rw [h]
    exact List.prefix_append _ _

/-- **A description that ends with a value** is found to do so just if the value keeps its sigmas. -/
theorem holds_endsWith_iff {front : List Char} (hd : d.toList = front ++ v.toList) (x : Decimal) :
    ConditionKind.endsWith.holds v ⟨d, x⟩ = true ↔ KeepsSigmas front v.toList [] := by
  rw [← lowerBetween_eq_lowerList_iff, ConditionKind.holds, List.isSuffixOf_iff_suffix, hd,
    lowerList_append]
  constructor
  · rintro ⟨rest, hrest⟩
    have hlen : (lowerList v.toList).length = (lowerBetween front.reverse v.toList []).length := by
      rw [lowerList, lowerAfter_eq_lowerBetween]
      exact length_lowerBetween [] front.reverse _ [] []
    exact (List.append_inj' hrest hlen).2.symm
  · intro h
    rw [h]
    exact List.suffix_append _ _

/-- A sigma is final in the value and not in the description, or in the description and not in the
value. -/
theorem misses_capital_sigma :
    ("ΑΣ".toList <+: "ΑΣΑ".toList ∧
        ConditionKind.contains.holds "ΑΣ" ⟨"ΑΣΑ", .zero⟩ = false ∧
        ConditionKind.startsWith.holds "ΑΣ" ⟨"ΑΣΑ", .zero⟩ = false) ∧
      "Σ".toList <:+ "ΑΣ".toList ∧ ConditionKind.endsWith.holds "Σ" ⟨"ΑΣ", .zero⟩ = false := by
  decide +kernel

/-- **A value that stands in a description** is contained in it where it keeps its sigmas, as it does
everywhere if it has none. At the start and at the end of a description it is found just if it keeps
them, and the description that is the value is always equal to it. -/
theorem holds_of_occurrence (v d : String) (x : Decimal) :
    (∀ front back, d.toList = front ++ v.toList ++ back → KeepsSigmas front v.toList back →
      ConditionKind.contains.holds v ⟨d, x⟩ = true) ∧
    (∀ back, d.toList = v.toList ++ back →
      (ConditionKind.startsWith.holds v ⟨d, x⟩ = true ↔ KeepsSigmas [] v.toList back)) ∧
    (∀ front, d.toList = front ++ v.toList →
      (ConditionKind.endsWith.holds v ⟨d, x⟩ = true ↔ KeepsSigmas front v.toList [])) ∧
    (d = v → ConditionKind.equals.holds v ⟨d, x⟩ = true) ∧
    ('Σ' ∉ v.toList → ∀ front back, KeepsSigmas front v.toList back) := by
  refine ⟨fun front back hd h => holds_contains_of_keepsSigmas hd h x,
    fun back hd => holds_startsWith_iff hd x, fun front hd => holds_endsWith_iff hd x, ?_,
    keepsSigmas_of_notMem⟩
  rintro rfl
  exact decide_eq_true rfl

end PostingRules
