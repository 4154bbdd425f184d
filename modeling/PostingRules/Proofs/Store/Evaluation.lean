import PostingRules.Proofs.Matching
import PostingRules.Proofs.Store.Listing

/-!
# Evaluating a transaction against a table

* `Row.evaluation?`: the evaluation of a single row;
* `Store.readablePriorities`: the priorities of the active rows of a workspace that can be read;
* `Evaluation.Precedes`: the order of evaluations;
* `evaluations_perm`: the evaluations of a list of rules are those of its rows;
* `evaluations_pairwise`: they stand in order if the rules ascend by id;
* **`evaluate_perm_pairwise`**: both, for a workspace that can be listed.
-/

namespace PostingRules

/-- The evaluation of a row, if the row is active and names kinds and its condition holds, where `top`
is the highest priority. -/
def Row.evaluation? (top : Int) (t : Transaction) (r : Row) : Option Evaluation :=
  match ConditionKind.ofName? r.condition, ActionKind.ofName? r.action, r.priority with
  | some k, some a, .int p =>
    if r.active && k.holds r.value t then
      some ⟨r.id, r.name, a, r.target, p, score k p top⟩
    else none
  | _, _, _ => none

/-- The priorities of the active rows of a workspace that name kinds. -/
def Store.readablePriorities (s : Store) (ws : String) : Set Int :=
  {p | ∃ r ∈ s.rows, r.workspace = ws ∧ r.active = true ∧
    (∃ k, ConditionKind.ofName? r.condition = some k) ∧
    (∃ a, ActionKind.ofName? r.action = some a) ∧ r.priority = .int p}

/-- The evaluation `a` stands before `b`: it has the higher priority, or the same and the higher
confidence, or both the same and the lower id. -/
def Evaluation.Precedes (a b : Evaluation) : Prop :=
  b.priority < a.priority ∨ a.priority = b.priority ∧
    (b.confidence < a.confidence ∨ a.confidence = b.confidence ∧ a.ruleId < b.ruleId)

/-! ## Single rows -/

theorem Row.Reads.evaluation? {r : Row} {x : StoredRule} (h : r.Reads x) (top : Int)
    (t : Transaction) : r.evaluation? top t =
      if x.toRule.fires t then some (x.toRule.matchAt top).evaluation else none := by
  rw [Row.evaluation?, h.condition, h.action, h.priority, h.id, h.name, h.active, h.value, h.target]
  rfl

theorem Row.Integral.evaluation?_eq {r : Row} (h : r.Integral) (top : Int) (t : Transaction) :
    r.evaluation? top t = r.rule?.bind fun x =>
      if x.toRule.fires t then some (x.toRule.matchAt top).evaluation else none := by
  cases hr : r.rule? with
  | some x => exact (rule?_eq_some_iff.mp hr).evaluation? top t
  | none =>
    have hnone : ∀ x, ¬ r.Reads x := fun x hx => by
      rw [rule?_eq_some_iff.mpr hx] at hr
      cases hr
    unfold Row.evaluation?
    split
    · rename_i k a p hk ha hp
      obtain ⟨x, hx⟩ := h.exists_reads hk ha
      exact absurd hx (hnone x)
    · rfl

/-! ## Lists of rules -/

/-- The active ones of some stored rules, as matching sees them. -/
def activeRules (rs : List StoredRule) : List Rule := (rs.filter (·.active)).map (·.toRule)

theorem filter_fires_activeRules (rs : List StoredRule) (t : Transaction) :
    (activeRules rs).filter (·.fires t) = (rs.filter (·.toRule.fires t)).map (·.toRule) := by
  rw [activeRules, List.filter_map, List.filter_filter]
  congr 1
  refine List.filter_congr fun x _ => ?_
  cases h : x.active <;> simp [Rule.fires, h]

theorem evaluations_perm {rs : List StoredRule} {t : Transaction} {top : Int} {ms : List Match}
    (h : ms.Perm (((activeRules rs).filter (·.fires t)).map (·.matchAt top))) :
    (ms.map Match.evaluation).Perm (rs.filterMap fun x =>
      if x.toRule.fires t then some (x.toRule.matchAt top).evaluation else none) := by
  have hmap := h.map Match.evaluation
  rw [filter_fires_activeRules, List.map_map, List.map_map] at hmap
  refine hmap.trans (.of_eq ?_)
  rw [← List.filterMap_eq_map, List.filterMap_filter]
  rfl

theorem evaluations_pairwise {rs : List StoredRule} {t : Transaction} {top : Int} {ms : List Match}
    (hrs : rs.Pairwise fun x y => y.priority < x.priority ∨ x.priority = y.priority ∧ x.id < y.id)
    (h : IsStableSort Match.rank (((activeRules rs).filter (·.fires t)).map (·.matchAt top)) ms) :
    (ms.map Match.evaluation).Pairwise Evaluation.Precedes := by
  have hties : (((activeRules rs).filter (·.fires t)).map (·.matchAt top)).Pairwise
      fun a b => a.rank = b.rank → a.rule.id < b.rule.id := by
    rw [filter_fires_activeRules, List.map_map, List.pairwise_map]
    refine (hrs.filter _).imp fun hxy hrank => ?_
    have hp := (Match.rank_eq_iff.mp hrank).1
    exact hxy.elim (fun hlt => absurd hp hlt.ne') And.right
  rw [List.pairwise_map]
  refine (h.pairwise_of_ties hties).imp fun hab => ?_
  rw [Match.rank_lt_iff, Match.rank_eq_iff] at hab
  rcases hab with (hp | ⟨hp, hc⟩) | ⟨⟨hp, hc⟩, hid⟩
  · exact Or.inl hp
  · exact Or.inr ⟨hp, Or.inl hc⟩
  · exact Or.inr ⟨hp, Or.inr ⟨hc, hid⟩⟩

/-! ## Workspaces -/

namespace Store

variable {s : Store} {ws : String} {rs : List StoredRule}

theorem mem_of_list (h : s.list ws = .ok rs) {x : StoredRule} :
    x ∈ rs ↔ ∃ r ∈ s.rows, r.workspace = ws ∧ r.Reads x := by
  obtain ⟨-, rfl⟩ := list_eq_ok_iff.mp h
  rw [List.mem_filterMap]
  simp only [mem_listing, rule?_eq_some_iff, and_assoc]

theorem activePriorities_activeRules (h : s.list ws = .ok rs) :
    activePriorities (activeRules rs) = s.readablePriorities ws := by
  have hI := (list_eq_ok_iff.mp h).1
  ext p
  constructor
  · rintro ⟨_, hr, hact, hp⟩
    obtain ⟨x, hx, rfl⟩ := List.mem_map.mp hr
    obtain ⟨r, hr, hws, hread⟩ := (mem_of_list h).mp (List.mem_filter.mp hx).1
    exact ⟨r, hr, hws, hread.active.trans hact, ⟨_, hread.condition⟩, ⟨_, hread.action⟩,
      hread.priority.trans (congrArg _ hp)⟩
  · rintro ⟨r, hr, hws, hact, ⟨k, hk⟩, ⟨a, ha⟩, hp⟩
    obtain ⟨x, hx⟩ := (hI r hr hws).exists_reads hk ha
    have hxa : x.active = true := hx.active.symm.trans hact
    refine ⟨x.toRule, List.mem_map_of_mem (List.mem_filter.mpr
      ⟨(mem_of_list h).mpr ⟨r, hr, hws, hx⟩, hxa⟩), hxa, ?_⟩
    rw [hx.priority] at hp
    exact Numeral.int.inj hp

theorem evaluate_of_list (h : s.list ws = .ok rs) (t : Transaction) :
    s.evaluate ws t = .ok (evaluations (activeRules rs) t) := by
  rw [evaluate, listActive, h]
  rfl

/-- **Evaluating a transaction** against a workspace that can be listed gives one evaluation for each
row that is active, names kinds and has a condition that holds, scored against the highest priority
among the active rows that name kinds; and each evaluation strictly precedes those behind it. -/
theorem evaluate_perm_pairwise (t : Transaction) (h : s.list ws = .ok rs) :
    ∃ es top, s.evaluate ws t = .ok es ∧ IsTop (s.readablePriorities ws) top ∧
      es.Perm ((s.inWorkspace ws).filterMap (Row.evaluation? top t)) ∧
      es.Pairwise Evaluation.Precedes := by
  obtain ⟨top, htop, hsort⟩ := findMatches_isStableSort (activeRules rs) t
  rw [activePriorities_activeRules h] at htop
  refine ⟨evaluations (activeRules rs) t, top, ?_, htop, ?_, ?_⟩
  · exact evaluate_of_list h t
  · obtain ⟨hI, hrs⟩ := list_eq_ok_iff.mp h
    have hperm := evaluations_perm hsort.perm
    rw [hrs, List.filterMap_filterMap, ← hrs] at hperm
    have hrows : (s.listing ws).filterMap (Row.evaluation? top t) =
        (s.listing ws).filterMap fun r => r.rule?.bind fun x =>
          if x.toRule.fires t then some (x.toRule.matchAt top).evaluation else none :=
      List.filterMap_congr fun r hr =>
        (hI r (mem_listing.mp hr).1 (mem_listing.mp hr).2).evaluation?_eq top t
    rw [← hrows] at hperm
    exact hperm.trans ((listing_isStableSort s ws).perm.filterMap _)
  · exact evaluations_pairwise (pairwise_of_list h) hsort

/-- A row on transactions with a text in them, in a workspace of its own. -/
def textRow (id : Int) (priority : Numeral) (condition value : String) (active : Bool) : Row :=
  ⟨id, "acme", "rule", none, priority, active, condition, value, "auto_book", "4", .int 0, none⟩

/-- A workspace with two rows that tie, one with another confidence, one that does not hold but has
the highest priority, one that is switched off and one of no kind. -/
def mixedRows : Store where
  rows := [textRow 1 (.int 2) "contains" "rent" true, textRow 2 (.int 2) "equals" "rent" true,
    textRow 3 (.int 2) "contains" "re" true, textRow 4 (.int 5) "contains" "fee" true,
    textRow 5 (.int 9) "contains" "rent" false, textRow 6 (.int 9) "fuzzy" "rent" true]
  keyed := by decide

theorem evaluate_perm_pairwise_mixedRows :
    (∃ rs, mixedRows.list "acme" = .ok rs) ∧
      ∃ es top, mixedRows.evaluate "acme" ⟨"rent", .zero⟩ = .ok es ∧
        IsTop (mixedRows.readablePriorities "acme") top ∧
        es.Perm ((mixedRows.inWorkspace "acme").filterMap
          (Row.evaluation? top ⟨"rent", .zero⟩)) ∧
        es.Pairwise Evaluation.Precedes := by
  have h := list_eq_ok_iff.mpr ⟨(by decide : ∀ r ∈ mixedRows.rows, r.workspace = "acme" →
    r.Integral), rfl⟩
  exact ⟨⟨_, h⟩, evaluate_perm_pairwise ⟨"rent", .zero⟩ h⟩

end Store

end PostingRules
