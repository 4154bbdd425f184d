import PostingRules.Proofs.Occurrence
import PostingRules.Proofs.Pattern.Literal

/-!
# Patterns that are plain texts

On values of ASCII letters, digits and blanks and on descriptions in ASCII, the pattern of a value with
anchors or without asks what one of the conditions on texts asks.

* `exists_drop_prefix_iff`, `exists_drop_eq_iff`, `length_eq_and_prefix_iff`: a text read from some place
  on, as a part or an end of another, or as all of it;
* `holds_regex_framed_iff`: when the pattern of a value holds;
* **`holds_regex_eq_holds_text`**: the four conditions on texts, each as a pattern.
-/

namespace PostingRules

open PostingRules.Text PostingRules.Text.Property

/-! ## Parts of texts -/

section

variable {α : Type} {v cs : List α}

theorem exists_drop_prefix_iff : (∃ i ≤ cs.length, v <+: cs.drop i) ↔ v <:+: cs := by
  rw [List.infix_iff_prefix_suffix]
  constructor
  · rintro ⟨i, -, h⟩
    exact ⟨_, h, List.drop_suffix i cs⟩
  · rintro ⟨rest, h, hrest⟩
    refine ⟨cs.length - rest.length, Nat.sub_le _ _, ?_⟩
    rwa [← List.suffix_iff_eq_drop.mp hrest]

theorem exists_drop_eq_iff :
    (∃ i ≤ cs.length, i + v.length = cs.length ∧ v <+: cs.drop i) ↔ v <:+ cs := by
  constructor
  · rintro ⟨i, -, hi, h⟩
    have heq : v = cs.drop i := h.eq_of_length (by rw [List.length_drop]; omega)
    rw [heq]
    exact List.drop_suffix i cs
  · intro h
    have heq : v = cs.drop (cs.length - v.length) := List.suffix_iff_eq_drop.mp h
    exact ⟨cs.length - v.length, Nat.sub_le _ _, Nat.sub_add_cancel h.length_le, [],
      (List.append_nil v).trans heq⟩

theorem length_eq_and_prefix_iff : v.length = cs.length ∧ v <+: cs ↔ cs = v := by
  constructor
  · exact fun ⟨hlen, h⟩ => (h.eq_of_length hlen).symm
  · rintro rfl
    exact ⟨rfl, List.prefix_refl cs⟩

end

/-! ## Conditions -/

variable {v p : String} {t : Transaction}

/-- **The pattern of a value** holds where the description, in lower case, has the value, at its start
and at its end where an anchor is there. -/
theorem holds_regex_framed_iff (hv : ∀ c ∈ v.toList, isLiteral c = true)
    (ht : ∀ c ∈ t.description.toList, c.toNat < 128) {a b : Bool} (hp : p.toList = framed a v.toList b)
    (hlen : (framed a v.toList b).length ≤ 200) : ConditionKind.regex.holds p t = true ↔
      ∃ i ≤ (lowerList t.description.toList).length, (a = true → i = 0) ∧
        (b = true → i + (lowerList v.toList).length = (lowerList t.description.toList).length) ∧
        lowerList v.toList <+: (lowerList t.description.toList).drop i := by
  rw [ConditionKind.holds, regexHolds, hp, isSafe_framed hv hlen, read?_framed hv hlen, Bool.true_and]
  simp only [found_framed_iff hv ht, lowerList_ascii ht,
    lowerList_ascii fun c hc => toNat_lt_of_isLiteral (hv c hc), List.length_map, List.map_drop]

/-- **The pattern of a plain value is a condition on texts.** Alone it asks whether the description
contains the value, behind `^` whether it starts with it, before `$` whether it ends with it, and between
both whether it is the value. -/
theorem holds_regex_eq_holds_text (hv : ∀ c ∈ v.toList, isLiteral c = true)
    (ht : ∀ c ∈ t.description.toList, c.toNat < 128) :
    (v.length ≤ 200 → ConditionKind.regex.holds v t = ConditionKind.contains.holds v t) ∧
      (v.length ≤ 199 →
        ConditionKind.regex.holds ("^" ++ v) t = ConditionKind.startsWith.holds v t ∧
        ConditionKind.regex.holds (v ++ "$") t = ConditionKind.endsWith.holds v t) ∧
      (v.length ≤ 198 →
        ConditionKind.regex.holds ("^" ++ v ++ "$") t = ConditionKind.equals.holds v t) := by
  have hframed : ∀ {p a b}, p.toList = framed a v.toList b → (framed a v.toList b).length ≤ 200 →
      (ConditionKind.regex.holds p t = true ↔ _) := holds_regex_framed_iff hv ht
  rw [← String.length_toList]
  refine ⟨fun hlen => ?_, fun hlen => ⟨?_, ?_⟩, fun hlen => ?_⟩
  · rw [Bool.eq_iff_iff, hframed (a := false) (b := false) (by simp [framed]) (by simpa [framed]),
      ConditionKind.holds, isInfixOf_iff, ← exists_drop_prefix_iff]
    simp
  · rw [Bool.eq_iff_iff, hframed (a := true) (b := false) (by simp [framed])
      (by simp [framed]; omega), ConditionKind.holds, List.isPrefixOf_iff_prefix]
    simp
  · rw [Bool.eq_iff_iff, hframed (a := false) (b := true) (by simp [framed])
      (by simp [framed]; omega), ConditionKind.holds, List.isSuffixOf_iff_suffix, ← exists_drop_eq_iff]
    simp
  · rw [Bool.eq_iff_iff, hframed (a := true) (b := true) (by simp [framed])
      (by simp [framed]; omega), ConditionKind.holds, decide_eq_true_eq, ← length_eq_and_prefix_iff]
    simp

/-- Letters with a third form beyond ASCII, and a line end that no anchor passes over. -/
theorem holds_regex_eq_holds_text_blanks :
    (∀ c ∈ "Task 7".toList, isLiteral c = true) ∧
      (∀ c ∈ "PAY: tASK 7\n".toList, c.toNat < 128) ∧ "Task 7".length ≤ 198 ∧
      ConditionKind.regex.holds "Task 7" ⟨"PAY: tASK 7\n", .zero⟩ =
        ConditionKind.contains.holds "Task 7" ⟨"PAY: tASK 7\n", .zero⟩ ∧
      (ConditionKind.regex.holds ("^" ++ "Task 7") ⟨"PAY: tASK 7\n", .zero⟩ =
          ConditionKind.startsWith.holds "Task 7" ⟨"PAY: tASK 7\n", .zero⟩ ∧
        ConditionKind.regex.holds ("Task 7" ++ "$") ⟨"PAY: tASK 7\n", .zero⟩ =
          ConditionKind.endsWith.holds "Task 7" ⟨"PAY: tASK 7\n", .zero⟩) ∧
      ConditionKind.regex.holds ("^" ++ "Task 7" ++ "$") ⟨"PAY: tASK 7\n", .zero⟩ =
        ConditionKind.equals.holds "Task 7" ⟨"PAY: tASK 7\n", .zero⟩ := by
  have hv : ∀ c ∈ "Task 7".toList, isLiteral c = true := List.all_eq_true.mp (by decide)
  have hd : ∀ c ∈ "PAY: tASK 7\n".toList, c.toNat < 128 := by simp
  have hlen : "Task 7".length ≤ 198 := by decide
  have h := holds_regex_eq_holds_text (t := ⟨"PAY: tASK 7\n", .zero⟩) hv hd
  exact ⟨hv, hd, hlen, h.1 (by omega), h.2.1 (by omega), h.2.2 hlen⟩

end PostingRules
