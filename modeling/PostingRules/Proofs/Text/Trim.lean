import PostingRules.Text.Blank

/-!
# Trimming

* `AllBlank`: nothing but blank characters;
* **`exists_framed_trimList`**: what is trimmed off a text is blank;
* **`trimList_framed`**: blanks around a text without blanks are trimmed off;
* `allBlank_eq_true_iff`: of a blank text nothing is left.
-/

namespace PostingRules.Text

/-- Every character is blank. -/
def AllBlank (cs : List Char) : Prop := ∀ c ∈ cs, isBlank c = true

theorem allBlank_takeWhile (cs : List Char) : AllBlank (cs.takeWhile isBlank) := fun _ hc =>
  List.all_eq_true.mp List.all_takeWhile _ hc

theorem exists_append_trimEndList (cs : List Char) :
    ∃ back, cs = trimEndList cs ++ back ∧ AllBlank back := by
  refine ⟨(cs.reverse.takeWhile isBlank).reverse, ?_, fun c hc => ?_⟩
  · rw [trimEndList, ← List.reverse_append, List.takeWhile_append_dropWhile, List.reverse_reverse]
  · exact allBlank_takeWhile _ c (List.mem_reverse.mp hc)

/-- **What is trimmed off a text** at its two ends is blank. -/
theorem exists_framed_trimList (cs : List Char) :
    ∃ front back, cs = front ++ trimList cs ++ back ∧ AllBlank front ∧ AllBlank back := by
  obtain ⟨back, hback, hb⟩ := exists_append_trimEndList (cs.dropWhile isBlank)
  refine ⟨cs.takeWhile isBlank, back, ?_, allBlank_takeWhile cs, hb⟩
  rw [trimList, List.append_assoc, ← hback, List.takeWhile_append_dropWhile]

theorem dropWhile_isBlank_of_none {core : List Char} (hc : ∀ c ∈ core, isBlank c = false) :
    core.dropWhile isBlank = core := by
  cases core with
  | nil => rfl
  | cons c cs => exact List.dropWhile_cons_of_neg (by simp [hc c List.mem_cons_self])

theorem trimEndList_append {core back : List Char} (hb : AllBlank back)
    (hc : ∀ c ∈ core, isBlank c = false) : trimEndList (core ++ back) = core := by
  rw [trimEndList, List.reverse_append,
    List.dropWhile_append_of_pos fun c h => hb c (List.mem_reverse.mp h),
    dropWhile_isBlank_of_none fun c h => hc c (List.mem_reverse.mp h), List.reverse_reverse]

/-- **Blanks around a text without blanks** are trimmed off. -/
theorem trimList_framed {front core back : List Char} (hf : AllBlank front) (hb : AllBlank back)
    (hc : ∀ c ∈ core, isBlank c = false) : trimList (front ++ core ++ back) = core := by
  rw [trimList, List.append_assoc, List.dropWhile_append_of_pos hf]
  cases core with
  | nil =>
    rw [List.nil_append, ← List.append_nil back, List.dropWhile_append_of_pos hb]
    rfl
  | cons c cs =>
    rw [List.cons_append, List.dropWhile_cons_of_neg (by simp [hc c List.mem_cons_self]),
      ← List.cons_append]
    exact trimEndList_append hb hc

theorem trimList_eq_nil_iff {cs : List Char} : trimList cs = [] ↔ AllBlank cs := by
  constructor
  · intro h
    obtain ⟨front, back, hcs, hf, hb⟩ := exists_framed_trimList cs
    rw [h, List.append_nil] at hcs
    rw [hcs]
    exact List.forall_mem_append.mpr ⟨hf, hb⟩
  · intro h
    have hnil : AllBlank [] := nofun
    have hframed : trimList (cs ++ [] ++ []) = [] := trimList_framed h hnil nofun
    rwa [List.append_nil, List.append_nil] at hframed

/-- **A text is blank** if nothing is left of it when it is trimmed. -/
theorem allBlank_eq_true_iff {s : String} : allBlank s = true ↔ trim s = "" := by
  have htrim : trim s = "" ↔ trimList s.toList = [] := by
    rw [trim, ← String.toList_inj, String.toList_ofList]
    rfl
  rw [htrim, trimList_eq_nil_iff, allBlank, List.all_eq_true]
  rfl

end PostingRules.Text
