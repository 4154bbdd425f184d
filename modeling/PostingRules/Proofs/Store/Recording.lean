import PostingRules.Proofs.Store.Coherence

/-!
# Counting the rule that is acted on

* `decision?`: the evaluation that is acted on, the one that books and else the first;
* `exists_row_of_mem_evaluate`: the row behind an evaluation;
* `CountsOnce`: two tables differ in one row, which is used once more in the second;
* **`recordMatch_of_decision`**: recording the rule that is acted on does just that, unless its count
  is at its end.
-/

namespace PostingRules

/-- **The evaluation that is acted on**: the one that books, and else the first. -/
def decision? (es : List Evaluation) : Option Evaluation := (autoBook? es).or es.head?

theorem decision?_eq_none_iff {es : List Evaluation} : decision? es = none ↔ es = [] := by
  constructor
  · intro h
    exact List.head?_eq_none_iff.mp (Option.or_eq_none_iff.mp h).2
  · rintro rfl
    rfl

theorem mem_of_decision? {es : List Evaluation} {e : Evaluation} (h : decision? es = some e) :
    e ∈ es := by
  rcases Option.or_eq_some_iff.mp h with h | ⟨-, h⟩
  · exact List.mem_of_find?_eq_some h
  · exact List.mem_of_head? h

theorem Row.of_evaluation?_eq_some {r : Row} {top : Int} {t : Transaction} {e : Evaluation}
    (h : r.evaluation? top t = some e) : e.ruleId = r.id ∧ r.NamesKinds := by
  unfold Row.evaluation? at h
  split at h
  · next k a p hk ha hp =>
    split at h <;> cases h
    exact ⟨rfl, by simp [Row.NamesKinds, hk, ha]⟩
  · cases h

namespace Store

variable {s : Store} {ws : String} {t : Transaction} {es : List Evaluation} {e : Evaluation}
  {r : Row} {id : Int}

/-! ## Evaluations -/

theorem exists_list_of_evaluate (h : s.evaluate ws t = .ok es) : ∃ rs, s.list ws = .ok rs := by
  cases hl : s.list ws with
  | ok rs => exact ⟨rs, rfl⟩
  | error f =>
    rw [evaluate, listActive, hl] at h
    cases h

/-- **The row behind an evaluation** is one of the workspace, and only a count at its end keeps it from
being read behind a use. -/
theorem exists_row_of_mem_evaluate (h : s.evaluate ws t = .ok es) (he : e ∈ es) :
    ∃ r n, s.find? ws e.ruleId = some r ∧ r.usageCount = .int n ∧
      (r.Spoils ↔ n = Text.maxInt64) := by
  obtain ⟨rs, hlist⟩ := exists_list_of_evaluate h
  obtain ⟨es', top, hes', -, hperm, -⟩ := evaluate_perm_pairwise t hlist
  rw [h] at hes'
  cases hes'
  obtain ⟨r, hr, hev⟩ := List.mem_filterMap.mp (hperm.mem_iff.mp he)
  obtain ⟨hmem, hws⟩ := mem_inWorkspace.mp hr
  obtain ⟨hid, hcondition, haction⟩ := Row.of_evaluation?_eq_some hev
  obtain ⟨p, n, hp, hn⟩ := Row.integral_iff.mp ((list_eq_ok_iff.mp hlist).1 r hmem hws)
  refine ⟨r, n, find?_eq_some_iff.mpr ⟨hmem, hid.symm, hws⟩, hn, ?_⟩
  simp [Row.Spoils, hp, hn, hcondition, haction]

/-! ## Uses -/

/-- **A rule is counted once**: the tables have the same rows but for that of the rule. Its count is not
at its end, and is one more in the second table, where it is last matched at a point in time. -/
def CountsOnce (s : Store) (ws : String) (id : Int) (now : Stamp) (s' : Store) : Prop :=
  ∃ before r after, ∃ n : Int, s.rows = before ++ r :: after ∧ r.id = id ∧ r.workspace = ws ∧
    r.usageCount = .int n ∧ n ≠ Text.maxInt64 ∧
    s'.rows = before ++ { r with usageCount := .int (n + 1), lastMatch := some now } :: after

theorem CountsOnce.usageCount_ne {now : Stamp} {s' : Store} (h : s.CountsOnce ws id now s')
    (hr : s.find? ws id = some r) : r.usageCount ≠ .int Text.maxInt64 := by
  obtain ⟨before, r', after, n, hrows, hid, hws, hn, hmax, -⟩ := h
  have hmem : r' ∈ s.rows := by
    rw [hrows]
    exact List.mem_append_right _ List.mem_cons_self
  rw [find?_eq_some_iff.mpr ⟨hmem, hid, hws⟩] at hr
  cases hr
  rw [hn]
  exact fun h => hmax (Numeral.int.inj h)

theorem modify_rows (hr : s.find? ws id = some r) {f : Row → Row} (hf : ∀ r, (f r).id = r.id) :
    ∃ before after, s.rows = before ++ r :: after ∧
      (s.modify ws id f hf).rows = before ++ f r :: after := by
  obtain ⟨hmem, hrow⟩ := find?_eq_some_iff.mp hr
  obtain ⟨before, after, hrows⟩ := List.append_of_mem hmem
  have hnodup := s.keyed
  rw [hrows, List.map_append, List.map_cons, List.nodup_middle, List.nodup_cons, List.mem_append,
    not_or] at hnodup
  have hother : ∀ l : List Row, r.id ∉ l.map (·.id) →
      l.map (fun x => if isRow ws id x then f x else x) = l := fun l hl => by
    conv_rhs => rw [← List.map_id l]
    refine List.map_congr_left fun x hx => if_neg fun hx' => hl ?_
    rw [hrow.1, ← (isRow_iff.mp hx').1]
    exact List.mem_map_of_mem hx
  refine ⟨before, after, hrows, ?_⟩
  rw [modify, mapRows]
  simp only [hrows, List.map_append, List.map_cons, if_pos (isRow_iff.mpr hrow),
    hother before hnodup.1.1, hother after hnodup.1.2]

/-- **Recording the rule that is acted on** counts it once; it fails where its count is the largest
number. -/
theorem recordMatch_of_decision (h : s.evaluate ws t = .ok es) (he : decision? es = some e)
    (now : Stamp) :
    ((∃ x, (recordMatch ws e.ruleId now s).1 = .ok x) ∧
        CountsOnce s ws e.ruleId now (recordMatch ws e.ruleId now s).2) ∨
      (∃ f, (recordMatch ws e.ruleId now s).1 = .error f) ∧
        ∃ r, s.find? ws e.ruleId = some r ∧ r.usageCount = .int Text.maxInt64 := by
  obtain ⟨r, n, hr, hn, hspoils⟩ := exists_row_of_mem_evaluate h (mem_of_decision? he)
  obtain ⟨-, hid, hws⟩ := find?_eq_some_iff.mp hr
  rw [recordMatch_of_some hr]
  by_cases hmax : n = Text.maxInt64
  · exact Or.inr ⟨(used_read_fails_iff now).mpr (hspoils.mpr hmax), r, hr, by rw [hn, hmax]⟩
  · obtain ⟨before, after, hrows, hrows'⟩ := modify_rows hr (used_id now)
    refine Or.inl ⟨?_, before, r, after, n, hrows, hid, hws, hn, hmax, ?_⟩
    · cases hread : (used now r).read with
      | ok x => exact ⟨x, rfl⟩
      | error f => exact absurd (hspoils.mp ((used_read_fails_iff now).mp ⟨f, hread⟩)) hmax
    · rw [hrows', used, hn, Numeral.succ, if_neg hmax]

end Store

end PostingRules
