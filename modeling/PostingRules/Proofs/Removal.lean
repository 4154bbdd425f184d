import PostingRules.Proofs.Suggestions
import PostingRules.Proofs.Confidence.Score
import Mathlib.Data.List.Pairwise

/-!
# Matches when rules are added or removed

The confidence of a match depends on the highest priority among all active rules, so it changes when
others come or go. The order of the matches does not.

* `Rule.rank`: the priority of a rule, then the specificity of its condition;
* `matchedRules`, `decided`: the rules of the matches, and the one that books;
* `keeping`: the rules at some positions of a list;
* `IsOrder`: positions in the order of matches;
* `matchedRules_isStableSort`: the matches are the rules that fire, stably sorted by rank;
* `matchedRules_keeping`: removed rules are missing in the matches, and nothing else changes;
* `decided_eq_of_filter_eq`: the decision depends on the rules that book without asking alone;
* **`matchedRules_order`**: all of it.
-/

namespace PostingRules

/-- The rank of a rule: its priority, then the specificity of its condition. -/
def Rule.rank (r : Rule) : Int ×ₗ ℚ := toLex (r.priority, r.condition.specificity)

/-- The rules of the matches of a transaction, in their order. -/
def matchedRules (rs : List Rule) (t : Transaction) : List Rule := (findMatches rs t).map (·.rule)

/-- The rule that books the transaction. -/
def decided (rs : List Rule) (t : Transaction) : Option Rule :=
  (autoBook? (findMatches rs t)).map (·.rule)

/-- The rules at the positions where `keep` holds. -/
def keeping (keep : ℕ → Bool) (rs : List Rule) : List Rule :=
  (rs.zipIdx.filter (keep ·.2)).map Prod.fst

/-! ## The order -/

theorem matchAt_rank_le_iff {a b : Rule} {top : Int} (ha : 0 ≤ a.priority)
    (htop : a.priority ≤ top) :
    (a.matchAt top).rank ≤ (b.matchAt top).rank ↔ a.rank ≤ b.rank := by
  rw [Match.rank, Match.rank, Rule.rank, Rule.rank, Prod.Lex.toLex_le_toLex,
    Prod.Lex.toLex_le_toLex]
  refine or_congr Iff.rfl (and_congr_right fun (hp : a.priority = b.priority) => ?_)
  have hscore : score a.condition a.priority top ≤ score b.condition a.priority top ↔
      a.condition.specificity ≤ b.condition.specificity := score_le_score_iff ha htop
  rw [Rule.matchAt, Rule.matchAt, ← hp]
  exact hscore

variable {rs : List Rule} {t : Transaction}

theorem map_rule_matchAt (l : List Rule) (top : Int) :
    (l.map (·.matchAt top)).map (·.rule) = l := by
  rw [List.map_map]
  exact List.map_id l

/-- **The matches are the rules that fire, stably sorted** by priority and then by specificity. -/
theorem matchedRules_isStableSort (h : ∀ r ∈ rs, 0 ≤ r.priority) (t : Transaction) :
    IsStableSort Rule.rank (rs.filter (·.fires t)) (matchedRules rs t) := by
  obtain ⟨top, htop, hsort⟩ := findMatches_isStableSort rs t
  have hle : ∀ r ∈ rs.filter (·.fires t), r.priority ≤ top := by
    intro r hr
    obtain ⟨hmem, hfires⟩ := List.mem_filter.mp hr
    rw [Rule.fires, Bool.and_eq_true] at hfires
    have hp : r.priority ∈ activePriorities rs := ⟨r, hmem, hfires.1, rfl⟩
    exact (htop ⟨_, hp⟩).2 hp
  have hrank : IsStableSort (Rule.rank ∘ (·.rule)) ((rs.filter (·.fires t)).map (·.matchAt top))
      (findMatches rs t) := by
    refine hsort.of_le_iff fun a ha b hb => ?_
    obtain ⟨x, hx, rfl⟩ := List.mem_map.mp ha
    obtain ⟨y, hy, rfl⟩ := List.mem_map.mp hb
    exact matchAt_rank_le_iff (h x (List.mem_filter.mp hx).1) (hle x hx)
  have hmap := hrank.map
  rwa [map_rule_matchAt] at hmap

/-! ## Some of the rules -/

theorem mem_of_mem_keeping {keep : ℕ → Bool} {r : Rule} (h : r ∈ keeping keep rs) : r ∈ rs := by
  obtain ⟨⟨r, i⟩, hmem, rfl⟩ := List.mem_map.mp h
  exact List.fst_mem_of_mem_zipIdx (List.mem_filter.mp hmem).1

theorem filter_fires_keeping (keep : ℕ → Bool) (rs : List Rule) (t : Transaction) :
    (keeping keep rs).filter (·.fires t) =
      ((rs.zipIdx.filter (·.1.fires t)).filter (keep ·.2)).map Prod.fst := by
  rw [keeping, List.filter_map, List.filter_comm]
  rfl

theorem keeping_true (rs : List Rule) : keeping (fun _ => true) rs = rs := by
  rw [keeping, List.filter_true]
  exact List.zipIdx_map_fst 0 rs

/-- The positions of a list in the order of matches: the higher rank stands first, and of one rank
the position before. -/
def IsOrder (order : List (Rule × ℕ)) : Prop :=
  order.Pairwise fun a b => b.1.rank < a.1.rank ∨ a.1.rank = b.1.rank ∧ a.2 < b.2

theorem pairwise_zipIdx (rs : List Rule) : rs.zipIdx.Pairwise fun a b => a.2 < b.2 := by
  rw [← List.pairwise_map (f := Prod.snd) (R := (· < ·)), List.zipIdx_map_snd]
  exact List.pairwise_lt_range'

theorem exists_order (rs : List Rule) (t : Transaction) : ∃ order : List (Rule × ℕ),
    IsStableSort (Rule.rank ∘ Prod.fst) (rs.zipIdx.filter (·.1.fires t)) order ∧ IsOrder order := by
  have hsort : IsStableSort (Rule.rank ∘ Prod.fst) (rs.zipIdx.filter (·.1.fires t)) _ :=
    isStableSort_mergeSort (fun _ _ => decide_eq_true_iff) _
  have hplaces := (pairwise_zipIdx rs).filter (·.1.fires t)
  refine ⟨_, hsort, hsort.pairwise_of_ties ?_⟩
  exact hplaces.imp fun {a b} hlt (_ : a.1.rank = b.1.rank) => hlt

/-- **Removed rules are missing** in the matches, and nothing else changes. -/
theorem matchedRules_keeping (h : ∀ r ∈ rs, 0 ≤ r.priority) {order : List (Rule × ℕ)}
    (horder : IsStableSort (Rule.rank ∘ Prod.fst) (rs.zipIdx.filter (·.1.fires t)) order)
    (keep : ℕ → Bool) :
    matchedRules (keeping keep rs) t = (order.filter (keep ·.2)).map Prod.fst := by
  have hkept : ∀ r ∈ keeping keep rs, 0 ≤ r.priority := fun r hr => h r (mem_of_mem_keeping hr)
  have hsort := matchedRules_isStableSort hkept t
  rw [filter_fires_keeping] at hsort
  exact hsort.eq (horder.filter (keep ·.2)).map

/-! ## The decision -/

/-- Does the rule book without asking? -/
def Rule.isAutoBook (r : Rule) : Bool := r.action = .autoBook

theorem decided_eq_find? (rs : List Rule) (t : Transaction) :
    decided rs t = (matchedRules rs t).find? Rule.isAutoBook := by
  rw [decided, matchedRules, List.find?_map]
  rfl

theorem find?_filter_of_find? {α : Type} {p q : α → Bool} {l : List α} {a : α}
    (h : l.find? p = some a) (hq : q a = true) : (l.filter q).find? p = some a := by
  obtain ⟨hp, front, back, rfl, hfront⟩ := List.find?_eq_some_iff_append.mp h
  refine List.find?_eq_some_iff_append.mpr ⟨hp, front.filter q, back.filter q, ?_, ?_⟩
  · rw [List.filter_append, List.filter_cons_of_pos hq]
  · intro x hx
    exact hfront x (List.mem_filter.mp hx).1

/-- **The decision** is one among the rules that book without asking. -/
theorem decided_eq_of_filter_eq {rs' : List Rule} (h : ∀ r ∈ rs, 0 ≤ r.priority)
    (h' : ∀ r ∈ rs', 0 ≤ r.priority) (heq : rs'.filter Rule.isAutoBook = rs.filter Rule.isAutoBook)
    (t : Transaction) : decided rs' t = decided rs t := by
  have hsort := (matchedRules_isStableSort h t).filter Rule.isAutoBook
  have hsort' := (matchedRules_isStableSort h' t).filter Rule.isAutoBook
  rw [List.filter_comm, ← heq, List.filter_comm] at hsort
  have hmatched := hsort'.eq hsort
  rw [decided_eq_find?, decided_eq_find?, ← List.head?_filter, ← List.head?_filter, hmatched]

/-- **The order of matches** is that of priority and then of specificity, and of equal rules the one
before stands first. So there is one order of the positions, and where rules are removed, at whatever
positions, the matches of the others keep it, though their confidences may change. The decision is
the first in this order that books without asking. It stays the same as long as it is not removed,
and whatever rules of other kinds are added or removed. -/
theorem matchedRules_order (rs : List Rule) (t : Transaction) (h : ∀ r ∈ rs, 0 ≤ r.priority) :
    IsStableSort Rule.rank (rs.filter (·.fires t)) (matchedRules rs t) ∧
      (∃ order : List (Rule × ℕ), order.Perm (rs.zipIdx.filter (·.1.fires t)) ∧ IsOrder order ∧
        matchedRules rs t = order.map Prod.fst ∧
        (∀ keep : ℕ → Bool,
          matchedRules (keeping keep rs) t = (order.filter (keep ·.2)).map Prod.fst) ∧
        decided rs t = (order.find? (·.1.isAutoBook)).map Prod.fst ∧
        ∀ (keep : ℕ → Bool) x, order.find? (·.1.isAutoBook) = some x → keep x.2 = true →
          decided (keeping keep rs) t = some x.1) ∧
      ∀ rs', (∀ r ∈ rs', 0 ≤ r.priority) →
        rs'.filter Rule.isAutoBook = rs.filter Rule.isAutoBook → decided rs' t = decided rs t := by
  obtain ⟨order, hsort, horder⟩ := exists_order rs t
  have hkeep := matchedRules_keeping h hsort
  have hall : matchedRules rs t = order.map Prod.fst := by
    have htrue := hkeep fun _ => true
    rwa [keeping_true, List.filter_true] at htrue
  refine ⟨matchedRules_isStableSort h t, ⟨order, hsort.perm, horder, hall, hkeep, ?_, ?_⟩,
    fun rs' h' heq => decided_eq_of_filter_eq h h' heq t⟩
  · rw [decided_eq_find?, hall, List.find?_map]
    rfl
  · intro keep x hx hkept
    rw [decided_eq_find?, hkeep, List.find?_map]
    exact congrArg (Option.map Prod.fst) (find?_filter_of_find? hx hkept)

/-- Two rules that tie but for their kinds, and one of a higher priority that does not fire. -/
def tiedRules : List Rule :=
  [⟨1, "rent", 2, true, .contains, "rent", .autoBook, "rent-1"⟩,
    ⟨2, "rent", 2, true, .equals, "rent", .autoBook, "rent-2"⟩,
    ⟨3, "fee", 5, true, .contains, "fee", .suggestAccount, "6570"⟩]

theorem matchedRules_order_tiedRules :
    (∀ r ∈ tiedRules, 0 ≤ r.priority) ∧ (∀ r ∈ tiedRules.take 2, 0 ≤ r.priority) ∧
      IsStableSort Rule.rank (tiedRules.filter (·.fires ⟨"rent", .zero⟩))
        (matchedRules tiedRules ⟨"rent", .zero⟩) ∧
      decided (tiedRules.take 2) ⟨"rent", .zero⟩ = decided tiedRules ⟨"rent", .zero⟩ := by
  have hall : ∀ r ∈ tiedRules, 0 ≤ r.priority := by decide
  have htwo : ∀ r ∈ tiedRules.take 2, 0 ≤ r.priority := by decide
  have h := matchedRules_order tiedRules ⟨"rent", .zero⟩ hall
  exact ⟨hall, htwo, h.1, h.2.2 _ htwo (by decide)⟩

end PostingRules
