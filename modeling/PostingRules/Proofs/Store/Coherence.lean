import PostingRules.Proofs.Store.Failure
import PostingRules.Proofs.Store.Evaluation

/-!
# Reads of one workspace agree

A row whose texts name no kinds stays in its table. A list leaves it out, and asking for it is an
error; otherwise it does nothing.

* `Row.NamesKinds`: both texts of a row are names of kinds;
* `keepingRows`: the table without some of its rows;
* `forall₂_reads_filterMap`: the rules of a list are those of the rows that name kinds, one each;
* `get_eq_ok_iff_of_list`, `get_eq_noRule_iff`: asking for one rule answers what the list holds;
* `listing_keepingRows`, `list_keepingRows`: a list without the rows that name no kinds is the same;
* **`reads_agree_of_list`**: all of it, for every workspace that can be listed.
-/

namespace PostingRules

/-- The texts of the row are names of kinds. -/
def Row.NamesKinds (r : Row) : Prop :=
  ConditionKind.ofName? r.condition ≠ none ∧ ActionKind.ofName? r.action ≠ none

instance (r : Row) : Decidable r.NamesKinds :=
  inferInstanceAs (Decidable (ConditionKind.ofName? r.condition ≠ none ∧
    ActionKind.ofName? r.action ≠ none))

theorem Row.Reads.namesKinds {r : Row} {x : StoredRule} (h : r.Reads x) : r.NamesKinds := by
  rw [Row.NamesKinds, h.condition, h.action]
  simp

theorem Row.Integral.reads_of_namesKinds {r : Row} (h : r.Integral) (hk : r.NamesKinds) :
    ∃ x, r.Reads x := by
  obtain ⟨k, hk'⟩ := Option.ne_none_iff_exists'.mp hk.1
  obtain ⟨a, ha⟩ := Option.ne_none_iff_exists'.mp hk.2
  exact h.exists_reads hk' ha

theorem Row.rule?_eq_none {r : Row} (h : ¬ r.NamesKinds) : r.rule? = none := by
  by_contra hne
  obtain ⟨x, hx⟩ := Option.ne_none_iff_exists'.mp hne
  exact h (rule?_eq_some_iff.mp hx).namesKinds

theorem Row.read_ne_noRule (r : Row) (id : Int) : r.read ≠ .error (.noRule id) := by
  rw [Row.read, Row.cells]
  split
  · change Cells.rule _ ≠ _
    rw [Cells.rule]
    split <;> simp
  · simp [Except.bind]
  · simp [Except.bind]

namespace Store

variable {s : Store} {ws : String} {rs : List StoredRule}

/-- The table without the rows that are not kept. -/
def keepingRows (s : Store) (keep : Row → Bool) : Store where
  rows := s.rows.filter keep
  keyed := s.keyed.sublist (List.filter_sublist.map _)

/-! ## The rules of a list -/

/-- **The rows that name kinds** hold the rules of a list, one each. -/
theorem forall₂_reads_filterMap {l : List Row} (h : ∀ r ∈ l, r.Integral) :
    List.Forall₂ Row.Reads (l.filter (·.NamesKinds)) (l.filterMap Row.rule?) := by
  induction l with
  | nil => exact .nil
  | cons r l ih =>
    rw [List.forall_mem_cons] at h
    by_cases hk : r.NamesKinds
    · obtain ⟨x, hx⟩ := h.1.reads_of_namesKinds hk
      rw [List.filter_cons_of_pos (by simpa using hk),
        List.filterMap_cons_some (rule?_eq_some_iff.mpr hx)]
      exact .cons hx (ih h.2)
    · rw [List.filter_cons_of_neg (by simpa using hk),
        List.filterMap_cons_none (Row.rule?_eq_none hk)]
      exact ih h.2

theorem perm_rows_of_list (h : s.list ws = .ok rs) : ∃ rows : List Row,
    rows.Perm (s.rows.filter fun r => r.workspace = ws ∧ r.NamesKinds) ∧
      List.Forall₂ Row.Reads rows rs := by
  obtain ⟨hI, rfl⟩ := list_eq_ok_iff.mp h
  refine ⟨(s.listing ws).filter (·.NamesKinds), ?_, ?_⟩
  · have hperm := (listing_isStableSort s ws).perm.filter (·.NamesKinds)
    rw [inWorkspace, List.filter_filter] at hperm
    refine hperm.trans (.of_eq (List.filter_congr fun r _ => ?_))
    rw [Bool.and_comm, Bool.decide_and]
  · apply forall₂_reads_filterMap
    intro r hr
    exact hI r (mem_listing.mp hr).1 (mem_listing.mp hr).2

/-! ## One rule -/

/-- **Asking for a rule** answers the one of the list with the id. -/
theorem get_eq_ok_iff_of_list (h : s.list ws = .ok rs) {id : Int} {x : StoredRule} :
    s.get ws id = .ok x ↔ x ∈ rs ∧ x.id = id := by
  rw [get_eq_ok_iff, mem_of_list h]
  constructor
  · rintro ⟨r, hr, hread⟩
    obtain ⟨hmem, hid, hws⟩ := find?_eq_some_iff.mp hr
    exact ⟨⟨r, hmem, hws, hread⟩, hread.id.symm.trans hid⟩
  · rintro ⟨⟨r, hmem, hws, hread⟩, hid⟩
    exact ⟨r, find?_eq_some_iff.mpr ⟨hmem, hread.id.trans hid, hws⟩, hread⟩

theorem get_eq_noRule_iff (s : Store) (ws : String) (id : Int) :
    s.get ws id = .error (.noRule id) ↔ ∀ r ∈ s.rows, r.workspace = ws → r.id ≠ id := by
  have hnone : (∀ r ∈ s.rows, r.workspace = ws → r.id ≠ id) ↔ s.find? ws id = none := by
    rw [find?_eq_none_iff, Has]
    push Not
    exact forall₂_congr fun r _ => ⟨fun h hid hws => h hws hid, fun h hws hid => h hid hws⟩
  rw [hnone, get]
  cases hr : s.find? ws id with
  | none => simp
  | some r => simpa using Row.read_ne_noRule r id

/-! ## Rows that name no kinds -/

theorem listing_keepingRows (s : Store) (keep : Row → Bool) (ws : String) :
    (s.keepingRows keep).listing ws = (s.listing ws).filter keep := by
  have hkept := listing_isStableSort (s.keepingRows keep) ws
  have hfilter := (listing_isStableSort s ws).filter keep
  have hrows : (s.keepingRows keep).inWorkspace ws = (s.inWorkspace ws).filter keep :=
    List.filter_comm _ _ s.rows
  rw [hrows] at hkept
  exact hkept.eq hfilter

/-- **A list without rows that name no kinds** is the same list. -/
theorem list_keepingRows (h : s.list ws = .ok rs) {keep : Row → Bool}
    (hkeep : ∀ r, r.NamesKinds → keep r = true) : (s.keepingRows keep).list ws = .ok rs := by
  obtain ⟨hI, rfl⟩ := list_eq_ok_iff.mp h
  refine list_eq_ok_iff.mpr ⟨fun r hr hws => hI r (List.mem_filter.mp hr).1 hws, ?_⟩
  rw [listing_keepingRows, List.filterMap_filter]
  apply List.filterMap_congr
  intro r _
  by_cases hk : r.NamesKinds
  · rw [if_pos (hkeep r hk)]
  · rw [Row.rule?_eq_none hk, ite_self]

/-- **Reads of a workspace agree** where it can be listed. The list holds the rules of the rows that
name kinds, one each, descending by priority and ascending by id. Asking for a rule answers the one of
the list with the id, and there is no rule only where there is no row. The active rules are those of
the list, in its order. And where rows that name no kinds are removed, lists and evaluations stay as
they were. -/
theorem reads_agree_of_list (h : s.list ws = .ok rs) :
    (∃ rows : List Row,
      rows.Perm (s.rows.filter fun r => r.workspace = ws ∧ r.NamesKinds) ∧
        List.Forall₂ Row.Reads rows rs) ∧
    (rs.Pairwise fun x y =>
      y.priority < x.priority ∨ x.priority = y.priority ∧ x.id < y.id) ∧
    (∀ id x, s.get ws id = .ok x ↔ x ∈ rs ∧ x.id = id) ∧
    (∀ id, s.get ws id = .error (.noRule id) ↔ ∀ r ∈ s.rows, r.workspace = ws → r.id ≠ id) ∧
    s.listActive ws = .ok (rs.filter (·.active)) ∧
    ∀ keep : Row → Bool, (∀ r, r.NamesKinds → keep r = true) →
      (s.keepingRows keep).list ws = .ok rs ∧
      (s.keepingRows keep).listActive ws = s.listActive ws ∧
      ∀ t, (s.keepingRows keep).evaluate ws t = s.evaluate ws t := by
  refine ⟨perm_rows_of_list h, pairwise_of_list h, fun id x => get_eq_ok_iff_of_list h,
    get_eq_noRule_iff s ws, ?_, fun keep hkeep => ?_⟩
  · rw [listActive, h]
    rfl
  · have hlist := list_keepingRows h hkeep
    have hactive : (s.keepingRows keep).listActive ws = s.listActive ws := by
      rw [listActive, listActive, hlist, h]
    refine ⟨hlist, hactive, fun t => ?_⟩
    rw [evaluate, evaluate, hactive]

/-- The row of no kind is the one of the highest priority that is not switched off. -/
theorem reads_agree_of_list_mixedRows :
    (∃ rs, mixedRows.list "acme" = .ok rs) ∧
      (∃ r ∈ mixedRows.rows, ¬ r.NamesKinds) ∧
      ∀ t, (mixedRows.keepingRows (·.NamesKinds)).evaluate "acme" t =
        mixedRows.evaluate "acme" t := by
  have h := list_eq_ok_iff.mpr ⟨(by decide : ∀ r ∈ mixedRows.rows, r.workspace = "acme" →
    r.Integral), rfl⟩
  have hkeep : ∀ r : Row, r.NamesKinds → decide r.NamesKinds = true := fun r hr => decide_eq_true hr
  have hall := reads_agree_of_list h
  exact ⟨⟨_, h⟩, by decide, (hall.2.2.2.2.2 _ hkeep).2.2⟩

end Store

end PostingRules
