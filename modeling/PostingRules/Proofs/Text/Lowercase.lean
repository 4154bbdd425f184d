import PostingRules.Text.Lowercase
import Mathlib.Data.List.Basic

/-!
# Lower case inside a text

The lower-case form of a part of a text depends on what stands around it, by its capital sigmas alone.

* `lowerAt`, `lowerBetween`: the lower-case form of a character and of a text between two others;
  `lowerAfter_eq_map`: of a text whose characters have one form wherever they stand;
* `lowerList_append`, `lowerList_framed`: the lower-case form of a text, part by part;
* `EndsWord`, `KeepsSigmas`: where a sigma is final, and that a text has its final sigmas between two
  others where it has them alone;
* **`lowerBetween_eq_lowerList_iff`**: a text has the same form between two others and alone just if
  it keeps its sigmas.
-/

namespace PostingRules.Text

/-! ## Parts of a text -/

/-- The lower-case form of a character between `before`, nearest character first, and `after`. -/
def lowerAt (before : List Char) (c : Char) (after : List Char) : List Char :=
  if c = 'Σ' then [lowerSigma before after] else lowerChar c

/-- The lower-case form of a text between `before`, nearest character first, and `after`. -/
def lowerBetween (before : List Char) : List Char → List Char → List Char
  | [], _ => []
  | c :: rest, after => lowerAt before c (rest ++ after) ++ lowerBetween (c :: before) rest after

theorem lowerAfter_cons (before : List Char) (c : Char) (cs : List Char) :
    lowerAfter before (c :: cs) = lowerAt before c cs ++ lowerAfter (c :: before) cs := rfl

/-- Characters that have one lower-case form wherever they stand. -/
theorem lowerAfter_eq_map {f : Char → Char} {before cs : List Char}
    (h : ∀ c ∈ cs, ∀ before after, lowerAt before c after = [f c]) :
    lowerAfter before cs = cs.map f := by
  induction cs generalizing before with
  | nil => rfl
  | cons c cs ih =>
    rw [List.forall_mem_cons] at h
    rw [lowerAfter_cons, h.1, ih h.2, List.singleton_append, List.map_cons]

theorem lowerAfter_append (before v w : List Char) : lowerAfter before (v ++ w) =
    lowerBetween before v w ++ lowerAfter (v.reverse ++ before) w := by
  induction v generalizing before with
  | nil => rfl
  | cons c v ih =>
    rw [List.cons_append, lowerAfter, ih, lowerBetween, lowerAt, List.append_assoc,
      List.reverse_cons, List.append_assoc, List.singleton_append]

theorem lowerAfter_eq_lowerBetween (before v : List Char) :
    lowerAfter before v = lowerBetween before v [] := by
  have h := lowerAfter_append before v []
  rwa [List.append_nil, lowerAfter, List.append_nil] at h

/-- **The lower-case form of two texts** behind each other. -/
theorem lowerList_append (v w : List Char) :
    lowerList (v ++ w) = lowerBetween [] v w ++ lowerBetween v.reverse w [] := by
  rw [lowerList, lowerAfter_append, List.append_nil, lowerAfter_eq_lowerBetween]

/-- **The lower-case form of a text** and of what stands before and behind it. -/
theorem lowerList_framed (front v back : List Char) : lowerList (front ++ v ++ back) =
    lowerBetween [] front (v ++ back) ++ lowerBetween front.reverse v back ++
      lowerBetween (v.reverse ++ front.reverse) back [] := by
  rw [lowerList, List.append_assoc, lowerAfter_append, lowerAfter_append, List.append_nil,
    lowerAfter_eq_lowerBetween, List.append_assoc]

/-! What stands around a text does not change how long its lower-case form is. -/

theorem length_lowerAt (before before' : List Char) (c : Char) (after after' : List Char) :
    (lowerAt before c after).length = (lowerAt before' c after').length := by
  unfold lowerAt
  split <;> rfl

theorem length_lowerBetween (before before' v after after' : List Char) :
    (lowerBetween before v after).length = (lowerBetween before' v after').length := by
  induction v generalizing before before' with
  | nil => rfl
  | cons c v ih =>
    rw [lowerBetween, lowerBetween, List.length_append, List.length_append,
      length_lowerAt before before' c _ (v ++ after'), ih (c :: before) (c :: before')]

/-! ## Final sigmas -/

/-- A word ends between `before`, nearest character first, and `after`. -/
def EndsWord (before after : List Char) : Prop :=
  casedNext before = true ∧ casedNext after = false

instance (before after : List Char) : Decidable (EndsWord before after) :=
  inferInstanceAs (Decidable (casedNext before = true ∧ casedNext after = false))

theorem lowerSigma_eq (before after : List Char) :
    lowerSigma before after = if EndsWord before after then 'ς' else 'σ' := by
  have hiff : (casedNext before && !casedNext after) = true ↔ EndsWord before after := by
    rw [Bool.and_eq_true, Bool.not_eq_true', EndsWord]
  rw [lowerSigma]
  simp only [hiff]

theorem lowerAt_eq_iff {before before' : List Char} {c : Char} {after after' : List Char} :
    lowerAt before c after = lowerAt before' c after' ↔
      (c = 'Σ' → (EndsWord before after ↔ EndsWord before' after')) := by
  unfold lowerAt
  split
  · next hc =>
    rw [List.singleton_inj, lowerSigma_eq, lowerSigma_eq]
    by_cases h : EndsWord before after <;> by_cases h' : EndsWord before' after' <;>
      simp [hc, h, h']
  · next hc => simp [hc]

/-- Two texts in two surroundings have the same lower-case form just if a word ends behind the same of
their capital sigmas. -/
theorem lowerBetween_eq_iff {before before' v after after' : List Char} :
    lowerBetween before v after = lowerBetween before' v after' ↔
      ∀ p q, v = p ++ 'Σ' :: q → (EndsWord (p.reverse ++ before) (q ++ after) ↔
        EndsWord (p.reverse ++ before') (q ++ after')) := by
  induction v generalizing before before' with
  | nil => simp [lowerBetween]
  | cons c v ih =>
    have hlen := length_lowerAt before before' c (v ++ after) (v ++ after')
    have hsplit : lowerBetween before (c :: v) after = lowerBetween before' (c :: v) after' ↔
        lowerAt before c (v ++ after) = lowerAt before' c (v ++ after') ∧
          lowerBetween (c :: before) v after = lowerBetween (c :: before') v after' :=
      ⟨fun h => List.append_inj h hlen, fun h => congrArg₂ (· ++ ·) h.1 h.2⟩
    rw [hsplit, lowerAt_eq_iff, ih]
    constructor
    · rintro ⟨hhead, htail⟩ p q hpq
      rcases p with _ | ⟨a, p⟩
      · cases hpq
        exact hhead rfl
      · cases hpq
        simpa using htail p q rfl
    · intro h
      refine ⟨fun hc => h [] v (by rw [hc]; rfl), fun p q hpq => ?_⟩
      simpa using h (c :: p) q (by rw [hpq]; rfl)

/-- **A text keeps its sigmas** between `front` and `back`: its capital sigmas are final there where
they are final in the text alone. -/
def KeepsSigmas (front v back : List Char) : Prop :=
  ∀ p q, v = p ++ 'Σ' :: q →
    (EndsWord (p.reverse ++ front.reverse) (q ++ back) ↔ EndsWord p.reverse q)

theorem keepsSigmas_of_notMem {v : List Char} (h : 'Σ' ∉ v) (front back : List Char) :
    KeepsSigmas front v back := by
  rintro p q rfl
  exact absurd (List.mem_append_right p List.mem_cons_self) h

/-- **A text has the same lower-case form** between two others and alone just if it keeps its
sigmas. -/
theorem lowerBetween_eq_lowerList_iff {front v back : List Char} :
    lowerBetween front.reverse v back = lowerList v ↔ KeepsSigmas front v back := by
  rw [lowerList, lowerAfter_eq_lowerBetween, lowerBetween_eq_iff]
  simp only [List.append_nil]
  rfl

end PostingRules.Text
