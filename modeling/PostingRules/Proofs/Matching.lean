import PostingRules.Rule.Matching
import PostingRules.Proofs.StableSort
import Mathlib.Data.Prod.Lex
import Mathlib.Order.Bounds.Basic

/-!
# The order of matches

* `Rule.fires`: is a rule active, and does its condition hold?
* `IsTop`: a number is the highest priority among the active rules;
* `Match.rank`: the priority of a match, then its confidence;
* `findMatches_isStableSort`: the matches are the rules that fire, stably sorted by rank;
* `exists_findMatches_of_fires`, `exists_findMatches_eq_cons`: a rule that fires is a match, and one
  above all others the first;
* **`findMatches_perm_sorted_stable`**: the same in single facts.
-/

namespace PostingRules

/-- Is the rule active, and does its condition hold of the transaction? -/
def Rule.fires (t : Transaction) (r : Rule) : Bool := r.active && r.matches t

/-- The priorities of the active rules. -/
def activePriorities (rs : List Rule) : Set Int := {p | ∃ r ∈ rs, r.active = true ∧ r.priority = p}

/-- If there is an active rule at all, then `top` is the highest priority of one. -/
def IsTop (priorities : Set Int) (top : Int) : Prop :=
  priorities.Nonempty → IsGreatest priorities top

/-- The rank of a match: its priority, then its confidence. -/
def Match.rank (m : Match) : Int ×ₗ Nat := toLex (m.rule.priority, m.confidence)

theorem Match.rank_le_iff {a b : Match} : b.rank ≤ a.rank ↔
    b.rule.priority < a.rule.priority ∨
      a.rule.priority = b.rule.priority ∧ b.confidence ≤ a.confidence := by
  rw [rank, rank, Prod.Lex.toLex_le_toLex, eq_comm (a := b.rule.priority)]

theorem Match.rank_lt_iff {a b : Match} : b.rank < a.rank ↔
    b.rule.priority < a.rule.priority ∨
      a.rule.priority = b.rule.priority ∧ b.confidence < a.confidence := by
  rw [rank, rank, Prod.Lex.toLex_lt_toLex, eq_comm (a := b.rule.priority)]

theorem Match.rank_eq_iff {a b : Match} :
    a.rank = b.rank ↔ a.rule.priority = b.rule.priority ∧ a.confidence = b.confidence := by
  rw [rank, rank, toLex_inj, Prod.mk.injEq]

theorem Match.before_iff (a b : Match) : a.before b = true ↔ b.rank ≤ a.rank := by
  rw [Match.rank_le_iff]
  simp only [before, Bool.or_eq_true, Bool.and_eq_true, decide_eq_true_eq]

/-! ## The highest priority -/

theorem mem_activePriorities {rs : List Rule} {p : Int} :
    p ∈ activePriorities rs ↔ p ∈ (rs.filter (·.active)).map (·.priority) := by
  rw [List.mem_map]
  constructor
  · rintro ⟨r, hr, ha, e⟩
    exact ⟨r, List.mem_filter.mpr ⟨hr, ha⟩, e⟩
  · rintro ⟨r, hr, e⟩
    exact ⟨r, (List.mem_filter.mp hr).1, (List.mem_filter.mp hr).2, e⟩

theorem isTop_of_maxPriority? {rs : List Rule} {top : Int}
    (h : maxPriority? (rs.filter (·.active)) = some top) : IsTop (activePriorities rs) top := by
  obtain ⟨hmem, hle⟩ := List.max?_eq_some_iff.mp h
  exact fun _ => ⟨mem_activePriorities.mpr hmem, fun p hp => hle p (mem_activePriorities.mp hp)⟩

theorem filter_active_of_maxPriority? {rs : List Rule}
    (h : maxPriority? (rs.filter (·.active)) = none) : rs.filter (·.active) = [] := by
  rw [maxPriority?, List.max?_eq_none_iff, List.map_eq_nil_iff] at h
  exact h

/-! ## Matches -/

theorem filter_fires (rs : List Rule) (t : Transaction) :
    rs.filter (·.fires t) = (rs.filter (·.active)).filter (·.matches t) := by
  rw [List.filter_filter]
  exact List.filter_congr fun r _ => Bool.and_comm _ _

/-- **The matches are the rules that fire, stably sorted by rank.** -/
theorem findMatches_isStableSort (rs : List Rule) (t : Transaction) :
    ∃ top, IsTop (activePriorities rs) top ∧
      IsStableSort Match.rank ((rs.filter (·.fires t)).map (·.matchAt top)) (findMatches rs t) := by
  cases h : maxPriority? (rs.filter (·.active)) with
  | none =>
    simp only [findMatches, h]
    have hnil := filter_active_of_maxPriority? h
    refine ⟨0, ?_, ?_⟩
    · rintro ⟨p, hp⟩
      rw [mem_activePriorities, hnil] at hp
      exact absurd hp List.not_mem_nil
    · rw [filter_fires, hnil]
      exact ⟨.refl _, .nil, fun _ => rfl⟩
  | some top =>
    simp only [findMatches, h]
    refine ⟨top, isTop_of_maxPriority? h, ?_⟩
    rw [filter_fires]
    exact isStableSort_mergeSort Match.before_iff _

/-- **A rule that fires** is among the matches. -/
theorem exists_findMatches_of_fires {rs : List Rule} {r : Rule} {t : Transaction} (hr : r ∈ rs)
    (h : r.fires t = true) : ∃ m ∈ findMatches rs t, m.rule = r := by
  obtain ⟨top, -, hsort⟩ := findMatches_isStableSort rs t
  refine ⟨r.matchAt top, hsort.perm.mem_iff.mpr ?_, rfl⟩
  exact List.mem_map_of_mem (List.mem_filter.mpr ⟨hr, h⟩)

/-- **A rule above all others** that are active is the first match, if it fires. -/
theorem exists_findMatches_eq_cons {rs : List Rule} {t : Transaction} {r : Rule} (hr : r ∈ rs)
    (hfires : r.fires t = true)
    (habove : ∀ x ∈ rs, x.active = true → x ≠ r → x.priority < r.priority) :
    ∃ ms, findMatches rs t = r.matchAt r.priority :: ms := by
  obtain ⟨top, htop, hsort⟩ := findMatches_isStableSort rs t
  have hactive : ∀ x : Rule, x.fires t = true → x.active = true := fun x hx =>
    (Bool.and_eq_true_iff.mp hx).1
  have hgreatest : IsGreatest (activePriorities rs) r.priority := by
    refine ⟨⟨r, hr, hactive r hfires, rfl⟩, ?_⟩
    rintro p ⟨x, hx, hxactive, rfl⟩
    by_cases hxr : x = r
    · rw [hxr]
    · exact (habove x hx hxactive hxr).le
  obtain rfl : top = r.priority := IsGreatest.unique (htop ⟨_, hgreatest.1⟩) hgreatest
  refine hsort.exists_eq_cons (List.mem_map_of_mem (List.mem_filter.mpr ⟨hr, hfires⟩)) ?_
  intro m hm hne
  obtain ⟨x, hx, rfl⟩ := List.mem_map.mp hm
  obtain ⟨hx, hxfires⟩ := List.mem_filter.mp hx
  have hxr : x ≠ r := fun e => hne (by rw [e])
  exact Match.rank_lt_iff.mpr (Or.inl (habove x hx (hactive x hxfires) hxr))

/-- **The matches of a transaction** are the rules that fire, each with its score against the highest
active priority. They stand in descending order of priority, then of confidence, and those that agree
in both stand in the order of their rules. -/
theorem findMatches_perm_sorted_stable (rs : List Rule) (t : Transaction) :
    ∃ top, IsTop (activePriorities rs) top ∧
      let unsorted := (rs.filter fun r => r.active && r.condition.holds r.value t).map fun r =>
        Match.mk r (score r.condition r.priority top)
      (findMatches rs t).Perm unsorted ∧
      (findMatches rs t).Pairwise (fun a b => b.rule.priority < a.rule.priority ∨
        a.rule.priority = b.rule.priority ∧ b.confidence ≤ a.confidence) ∧
      ∀ p c, (findMatches rs t).filter (fun m => m.rule.priority = p ∧ m.confidence = c) =
        unsorted.filter fun m => m.rule.priority = p ∧ m.confidence = c := by
  obtain ⟨top, htop, h⟩ := findMatches_isStableSort rs t
  refine ⟨top, htop, h.perm, h.descending.imp fun hle => Match.rank_le_iff.mp hle, fun p c => ?_⟩
  have hk := h.stable (toLex (p, c))
  have hrank : ∀ m : Match, (m.rank = toLex (p, c)) ↔ (m.rule.priority = p ∧ m.confidence = c) :=
    fun m => by rw [Match.rank, toLex_inj, Prod.mk.injEq]
  simp only [hrank] at hk
  exact hk

end PostingRules
