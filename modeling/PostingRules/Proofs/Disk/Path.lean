import PostingRules.Disk.Path
import Mathlib.Data.List.Basic
import Mathlib.Tactic.Common

/-!
# Steps of a path

A path says more than where it leads: slashes and points can stand in it that change nothing.

* `splitOn_append_cons`, `splitOn_of_notMem`: the parts of a text that is put together;
* `IsStep`, `way`: the steps of a path that lead on;
* `steps_ofNames`, `isAbsolute_ofNames`: a path that is put together from names;
* **`way_parent?`**: the path above a path leads there but for the last step.
-/

namespace PostingRules

namespace Text

variable {sep : Char}

theorem splitOn_of_notMem {cs : List Char} (h : sep ∉ cs) : splitOn sep cs = [cs] := by
  induction cs with
  | nil => rfl
  | cons c cs ih =>
    rw [List.mem_cons, not_or] at h
    rw [splitOn, if_neg (Ne.symm h.1), ih h.2]

/-- **The parts of two texts** with a separator between them. -/
theorem splitOn_append_cons (front back : List Char) :
    splitOn sep (front ++ sep :: back) = splitOn sep front ++ splitOn sep back := by
  induction front with
  | nil => simp [splitOn]
  | cons c front ih =>
    rw [List.cons_append, splitOn, splitOn, ih]
    obtain ⟨part, parts, hparts⟩ := List.exists_cons_of_ne_nil (splitOn_ne_nil sep front)
    split
    · rfl
    · rw [hparts]
      rfl

theorem notMem_of_mem_splitOn {cs part : List Char} (h : part ∈ splitOn sep cs) : sep ∉ part := by
  induction cs generalizing part with
  | nil =>
    rw [splitOn, List.mem_singleton] at h
    rw [h]
    exact List.not_mem_nil
  | cons c cs ih =>
    obtain ⟨first, parts, hparts⟩ := List.exists_cons_of_ne_nil (splitOn_ne_nil sep cs)
    rw [hparts] at ih
    rw [splitOn, hparts] at h
    split at h
    · rcases List.mem_cons.mp h with rfl | h
      · exact List.not_mem_nil
      · exact ih h
    · next hc =>
      rcases List.mem_cons.mp h with rfl | h
      · rw [List.mem_cons, not_or]
        exact ⟨Ne.symm hc, ih List.mem_cons_self⟩
      · exact ih (List.mem_cons_of_mem _ h)

end Text

namespace Path

open PostingRules.Text

/-- The step leads on. -/
def IsStep (n : String) : Bool := !n.isEmpty && n != "."

/-- The steps of a path that lead on. -/
def way (p : String) : List String := (steps p).filter IsStep

theorem steps_append_slash (front back : String) :
    steps (front ++ "/" ++ back) = steps front ++ steps back := by
  have hlist : (front ++ "/" ++ back).toList = front.toList ++ '/' :: back.toList := by simp
  rw [steps, hlist, splitOn_append_cons, List.map_append]
  rfl

theorem steps_of_notMem {n : String} (h : '/' ∉ n.toList) : steps n = [n] := by
  rw [steps, splitOn_of_notMem h, List.map_singleton, String.ofList_toList]

theorem notMem_of_mem_steps {p n : String} (h : n ∈ steps p) : '/' ∉ n.toList := by
  obtain ⟨part, hpart, rfl⟩ := List.mem_map.mp h
  rw [String.toList_ofList]
  exact notMem_of_mem_splitOn hpart

/-! ## Paths of names -/

theorem way_separated {ns : List String} (h : ∀ n ∈ ns, '/' ∉ n.toList) :
    way (separated "/" ns) = ns.filter IsStep := by
  induction ns with
  | nil => rfl
  | cons n ns ih =>
    rw [List.forall_mem_cons] at h
    cases ns with
    | nil => rw [separated, way, steps_of_notMem h.1]
    | cons n' ns =>
      rw [separated, way, steps_append_slash, List.filter_append, steps_of_notMem h.1,
        ← way, ih h.2, ← List.filter_append, List.singleton_append]

/-- **The way of a path of names** holds those of the names that lead on. -/
theorem way_ofNames (absolute : Bool) {ns : List String} (h : ∀ n ∈ ns, '/' ∉ n.toList) :
    way (ofNames absolute ns) = ns.filter IsStep := by
  cases absolute with
  | false =>
    have hpath : ofNames false ns = separated "/" ns := by simp [ofNames]
    rw [hpath, way_separated h]
  | true =>
    have hpath : ofNames true ns = "" ++ "/" ++ separated "/" ns := by simp [ofNames]
    rw [hpath, way, steps_append_slash, List.filter_append, ← way, ← way, way_separated h]
    rfl

theorem isAbsolute_ofNames (absolute : Bool) {ns : List String}
    (h : ∀ n ∈ ns, '/' ∉ n.toList ∧ n ≠ "") : isAbsolute (ofNames absolute ns) = absolute := by
  cases absolute with
  | true =>
    simp [isAbsolute, ofNames]
  | false =>
    have hpath : ofNames false ns = separated "/" ns := by simp [ofNames]
    rw [hpath, isAbsolute, decide_eq_false_iff_not]
    rcases ns with _ | ⟨n, _ | ⟨n', ns⟩⟩
    · simp [separated]
    · have hn := (h n List.mem_cons_self).1
      intro hhead
      exact hn (List.mem_of_head? hhead)
    · obtain ⟨hn, hne⟩ := h n List.mem_cons_self
      have hnil : n.toList ≠ [] := by simpa using hne
      obtain ⟨c, cs, hcs⟩ := List.exists_cons_of_ne_nil hnil
      rw [hcs, List.mem_cons, not_or] at hn
      simp [separated, hcs]
      exact Ne.symm hn.1

/-! ## The path above -/

theorem names_eq (p : String) : names p = way p ∨ names p = "." :: way p := by
  unfold names
  simp only
  split
  · exact Or.inr rfl
  · exact Or.inl rfl

theorem mem_names {p n : String} (h : n ∈ names p) : '/' ∉ n.toList ∧ n ≠ "" := by
  have hway : ∀ n ∈ way p, '/' ∉ n.toList ∧ n ≠ "" := by
    intro n hn
    obtain ⟨hmem, hstep⟩ := List.mem_filter.mp hn
    refine ⟨notMem_of_mem_steps hmem, ?_⟩
    rintro rfl
    cases hstep
  rcases names_eq p with hp | hp
  · exact hway n (hp ▸ h)
  · rcases List.mem_cons.mp (hp ▸ h) with rfl | h
    · decide
    · exact hway n h

/-- **The path above** leads there but for the last step. -/
theorem way_parent? {p above : String} (h : parent? p = some above) :
    way above = (way p).dropLast ∧ isAbsolute above = isAbsolute p := by
  unfold parent? at h
  split at h
  · cases h
  · cases h
    have hmem : ∀ n ∈ (names p).dropLast, '/' ∉ n.toList ∧ n ≠ "" := fun n hn =>
      mem_names ((List.dropLast_subset _ hn))
    refine ⟨?_, isAbsolute_ofNames _ hmem⟩
    rw [way_ofNames _ fun n hn => (hmem n hn).1]
    have hkept : (way p).dropLast.filter IsStep = (way p).dropLast := by
      rw [List.filter_eq_self]
      intro n hn
      exact (List.mem_filter.mp ((List.dropLast_subset _ hn))).2
    rcases names_eq p with hp | hp
    · rw [hp, hkept]
    · rw [hp]
      cases hw : way p with
      | nil => rfl
      | cons n ns =>
        rw [List.dropLast_cons_cons, List.filter_cons_of_neg (by decide), ← hw, hkept]

end Path

end PostingRules
