import PostingRules.Proofs.Condition
import PostingRules.Proofs.Decimal.Alphabet
import PostingRules.Proofs.Text.Trim

/-!
# The order behind conditions on amounts

* `exists_framed_of_threshold?`: a limit is a number with blanks around it;
* `comma_notMem_of_threshold?`, **`bounds?_append`**: so two limits with a comma between them are the
  range between them;
* `holds_amountLt_iff_value_lt`, `holds_amountGt_iff_value_lt`, `holds_amountRange_iff_value_le`: the
  conditions compare values;
* **`holds_amount_iff_value`**: they divide the amounts consistently, and see nothing but the values.
-/

namespace PostingRules

open PostingRules.Text

variable {a b v : String} {x y : Decimal}

/-! ## Limits -/

/-- **A limit** is a number with blanks around it or without. -/
theorem exists_framed_of_threshold? (h : threshold? v = some x) : ∃ front core back,
    v.toList = front ++ core ++ back ∧ AllBlank front ∧ AllBlank back ∧
      Decimal.read core = some x ∧ ∀ c ∈ core, Decimal.IsNumberChar c := by
  obtain ⟨front, back, hv, hfront, hback⟩ := exists_framed_trimList v.toList
  exact ⟨front, trimList v.toList, back, hv, hfront, hback, h, Decimal.isNumberChar_of_read h⟩

theorem comma_notMem_of_threshold? (h : threshold? v = some x) : ',' ∉ v.toList := by
  obtain ⟨front, core, back, hv, hfront, hback, -, hcore⟩ := exists_framed_of_threshold? h
  have hblank : isBlank ',' = false := by decide
  rw [hv, List.mem_append, List.mem_append]
  rintro ((hmem | hmem) | hmem)
  · exact absurd (hfront _ hmem) (by simp [hblank])
  · exact absurd (hcore _ hmem) (by decide)
  · exact absurd (hback _ hmem) (by simp [hblank])

/-- **Two limits with a comma between them** are the range between them. -/
theorem bounds?_append (ha : threshold? a = some x) (hb : threshold? b = some y) :
    bounds? (a ++ "," ++ b) = some (x, y) := by
  have hchars : (a ++ "," ++ b).toList = a.toList ++ ',' :: b.toList := by
    rw [String.toList_append, String.toList_append, List.append_assoc]
    rfl
  have hfirst : ∀ c ∈ a.toList, (c != ',') = true := by
    intro c hc
    rw [bne_iff_ne]
    rintro rfl
    exact comma_notMem_of_threshold? ha hc
  have hleast : (a.toList ++ ',' :: b.toList).takeWhile (· != ',') = a.toList := by
    rw [List.takeWhile_append_of_pos hfirst, List.takeWhile_cons_of_neg (by decide), List.append_nil]
  have hmost : (a.toList ++ ',' :: b.toList).dropWhile (· != ',') = ',' :: b.toList := by
    rw [List.dropWhile_append_of_pos hfirst, List.dropWhile_cons_of_neg (by decide)]
  rw [threshold?] at ha hb
  simp only [bounds?, hchars, hmost, hleast, ha, hb, Option.bind_eq_bind, Option.bind_some]

/-! ## Values -/

theorem holds_amountLt_iff_value_lt (ha : threshold? a = some x) (t : Transaction) :
    ConditionKind.amountLt.holds a t = true ↔ t.amount.value < x.value := by
  rw [holds_amountLt_iff, ← Decimal.lt_iff_value_lt]
  simp [ha]

theorem holds_amountGt_iff_value_lt (ha : threshold? a = some x) (t : Transaction) :
    ConditionKind.amountGt.holds a t = true ↔ x.value < t.amount.value := by
  rw [holds_amountGt_iff, ← Decimal.lt_iff_value_lt]
  simp [ha]

theorem holds_amountRange_iff_value_le (ha : threshold? a = some x) (hb : threshold? b = some y)
    (t : Transaction) : ConditionKind.amountRange.holds (a ++ "," ++ b) t = true ↔
      x.value ≤ t.amount.value ∧ t.amount.value ≤ y.value := by
  rw [holds_amountRange_iff, ← Decimal.le_iff_value_le, ← Decimal.le_iff_value_le]
  simp [bounds?_append ha hb]

/-- Of two numbers the first is less, or greater, or they are equal. -/
theorem count_compare_value (p q : ℚ) :
    [decide (p < q), decide (q < p), decide (q ≤ p ∧ p ≤ q)].count true = 1 := by
  rcases lt_trichotomy p q with h | rfl | h
  · simp [h, h.le, h.not_ge, not_lt_of_gt h]
  · simp
  · simp [h, h.le, h.not_ge, not_lt_of_gt h]

/-- **Conditions on amounts form one order.** A range holds just where the amount is neither below its
first limit nor above its second. Of the three, less than a limit, more than it, and in the range from
it to itself, exactly one holds. Each compares the values of the limits and of the amount, so limits
written otherwise and amounts of other scales change nothing while the values stay. -/
theorem holds_amount_iff_value (ha : threshold? a = some x) (hb : threshold? b = some y)
    (t : Transaction) :
    (ConditionKind.amountRange.holds (a ++ "," ++ b) t = true ↔
      ConditionKind.amountLt.holds a t = false ∧ ConditionKind.amountGt.holds b t = false) ∧
    [ConditionKind.amountLt.holds a t, ConditionKind.amountGt.holds a t,
      ConditionKind.amountRange.holds (a ++ "," ++ a) t].count true = 1 ∧
    ((ConditionKind.amountLt.holds a t = true ↔ t.amount.value < x.value) ∧
      (ConditionKind.amountGt.holds a t = true ↔ x.value < t.amount.value) ∧
      (ConditionKind.amountRange.holds (a ++ "," ++ b) t = true ↔
        x.value ≤ t.amount.value ∧ t.amount.value ≤ y.value)) ∧
    ∀ a' b' x' y' t', threshold? a' = some x' → threshold? b' = some y' → x'.value = x.value →
      y'.value = y.value → t'.amount.value = t.amount.value →
      ConditionKind.amountLt.holds a' t' = ConditionKind.amountLt.holds a t ∧
      ConditionKind.amountGt.holds a' t' = ConditionKind.amountGt.holds a t ∧
      ConditionKind.amountRange.holds (a' ++ "," ++ b') t' =
        ConditionKind.amountRange.holds (a ++ "," ++ b) t := by
  have hlt := holds_amountLt_iff_value_lt ha t
  have hgt := holds_amountGt_iff_value_lt ha t
  have hrange := holds_amountRange_iff_value_le ha hb t
  refine ⟨?_, ?_, ⟨hlt, hgt, hrange⟩, fun a' b' x' y' t' ha' hb' hx hy ht => ⟨?_, ?_, ?_⟩⟩
  · rw [hrange, ← Bool.not_eq_true, ← Bool.not_eq_true, hlt, holds_amountGt_iff_value_lt hb t,
      not_lt, not_lt]
  · rw [Bool.eq_iff_iff.mpr (hlt.trans decide_eq_true_iff.symm),
      Bool.eq_iff_iff.mpr (hgt.trans decide_eq_true_iff.symm),
      Bool.eq_iff_iff.mpr ((holds_amountRange_iff_value_le ha ha t).trans decide_eq_true_iff.symm)]
    exact count_compare_value t.amount.value x.value
  · rw [Bool.eq_iff_iff, holds_amountLt_iff_value_lt ha' t', hlt, hx, ht]
  · rw [Bool.eq_iff_iff, holds_amountGt_iff_value_lt ha' t', hgt, hx, ht]
  · rw [Bool.eq_iff_iff, holds_amountRange_iff_value_le ha' hb' t', hrange, hx, hy, ht]

/-- The limits are zero and one and a half. -/
theorem holds_amount_iff_value_padded :
    threshold? "\t-.00 " = some ⟨false, 0, 2, by decide, by decide⟩ ∧
      threshold? "+1_5.e-1" = some ⟨false, 15, 1, by decide, by decide⟩ ∧
      threshold? "0" = some .zero ∧
      threshold? "\u00a01.50" = some ⟨false, 150, 2, by decide, by decide⟩ ∧
      [ConditionKind.amountLt.holds "0" ⟨"", ⟨true, 0, 28, by decide, by decide⟩⟩,
        ConditionKind.amountGt.holds "0" ⟨"", ⟨true, 0, 28, by decide, by decide⟩⟩,
        ConditionKind.amountRange.holds ("0" ++ "," ++ "0")
          ⟨"", ⟨true, 0, 28, by decide, by decide⟩⟩].count true = 1 ∧
      ∀ t, ConditionKind.amountRange.holds ("\t-.00 " ++ "," ++ "+1_5.e-1") t =
        ConditionKind.amountRange.holds ("0" ++ "," ++ "\u00a01.50") t := by
  have ha : threshold? "\t-.00 " = some ⟨false, 0, 2, by decide, by decide⟩ := by decide
  have hb : threshold? "+1_5.e-1" = some ⟨false, 15, 1, by decide, by decide⟩ := by decide
  have ha' : threshold? "0" = some .zero := by decide
  have hb' : threshold? "\u00a01.50" = some ⟨false, 150, 2, by decide, by decide⟩ := by decide
  have heq : ∀ {p q : Decimal}, p ≤ q → q ≤ p → p.value = q.value := fun h h' =>
    le_antisymm (Decimal.le_iff_value_le.mp h) (Decimal.le_iff_value_le.mp h')
  refine ⟨ha, hb, ha', hb', (holds_amount_iff_value ha' hb' _).2.1, fun t => ?_⟩
  exact ((holds_amount_iff_value ha' hb' t).2.2.2 _ _ _ _ t ha hb (heq (by decide) (by decide))
    (heq (by decide) (by decide)) rfl).2.2

end PostingRules
