import PostingRules.Proofs.Store.Call
import PostingRules.Proofs.Store.Rows
import Mathlib.Data.List.Perm.Basic

/-!
# Setting many priorities at once

The priorities of a list of pairs are written one after another, and nothing of it stays if a pair
cannot be written.

* `assigned`: a row with the last priority that some pairs have for it;
* `assign_of_has`, `assign_of_not_has`: the writes as one simultaneous change, or the first pair that
  names no rule;
* `reprioritize_of_valid`, `reprioritize_of_negative`, `reprioritize_of_not_has`: the three outcomes;
* `assigned_perm`: pairs for different rules may stand in any order;
* **`reprioritize_all_or_nothing`**: all this for every table and every list of pairs.
-/

namespace PostingRules.Store

variable {s : Store} {ws : String} {ps : List (Int × Int)}

/-- **A row with the last priority that the pairs have for it**, if it is one of the workspace. -/
def assigned (ws : String) (ps : List (Int × Int)) (r : Row) : Row :=
  if r.workspace = ws then
    match ps.reverse.lookup r.id with
    | some p => prioritized p r
    | none => r
  else r

@[simp] theorem assigned_id (ws : String) (ps : List (Int × Int)) (r : Row) :
    (assigned ws ps r).id = r.id := by
  unfold assigned
  split
  · split <;> rfl
  · rfl

@[simp] theorem assigned_workspace (ws : String) (ps : List (Int × Int)) (r : Row) :
    (assigned ws ps r).workspace = r.workspace := by
  unfold assigned
  split
  · split <;> rfl
  · rfl

@[simp] theorem prioritized_workspace (p : Int) (r : Row) :
    (prioritized p r).workspace = r.workspace := rfl

theorem assigned_nil (ws : String) (r : Row) : assigned ws [] r = r := by
  unfold assigned
  split <;> rfl

theorem assigned_cons (ws : String) (id p : Int) (ps : List (Int × Int)) (r : Row) :
    assigned ws ((id, p) :: ps) r = assigned ws ps (if isRow ws id r then prioritized p r else r) := by
  by_cases hws : r.workspace = ws
  · have hrow : isRow ws id r = decide (r.id = id) := by simp [isRow, hws]
    rw [hrow]
    by_cases hid : r.id = id
    · cases h : ps.reverse.lookup id <;> simp [assigned, hws, hid, List.lookup_append, h, prioritized]
    · have hne : (r.id == id) = false := beq_eq_false_iff_ne.mpr hid
      simp [assigned, hws, hid, List.lookup_append, List.lookup_cons, hne]
  · have hrow : isRow ws id r = false := by simp [isRow, hws]
    simp [assigned, hws, hrow]

/-! ## The writes -/

/-- **Writing priorities one after another** is one change of all rows. -/
theorem assign_of_has (h : ∀ p ∈ ps, s.Has ws p.1) :
    assign ws ps s = .ok (s.mapRows (assigned ws ps) (assigned_id ws ps)) := by
  induction ps generalizing s with
  | nil =>
    have hid : s.mapRows (assigned ws []) (assigned_id ws []) = s :=
      Store.ext (List.map_id'' (assigned_nil ws) s.rows)
    rw [assign, hid]
  | cons p ps ih =>
    obtain ⟨id, p⟩ := p
    obtain ⟨r, hr⟩ := has_iff_exists_find?.mp (h (id, p) List.mem_cons_self)
    have hrest : ∀ q ∈ ps, (s.modify ws id (prioritized p) (prioritized_id p)).Has ws q.1 :=
      fun q hq => (has_modify _ (prioritized_workspace p) ws id).mpr (h q (List.mem_cons_of_mem _ hq))
    simp only [assign, hr]
    rw [ih hrest]
    congr 1
    refine Store.ext ?_
    simp only [mapRows, modify, List.map_map]
    exact List.map_congr_left fun r _ => (assigned_cons ws id p ps r).symm

theorem assign_of_not_has {before after : List (Int × Int)} {p : Int × Int}
    (hbefore : ∀ q ∈ before, s.Has ws q.1) (hp : ¬ s.Has ws p.1) :
    assign ws (before ++ p :: after) s = .error (.noRule p.1) := by
  induction before generalizing s with
  | nil =>
    obtain ⟨id, p⟩ := p
    simp only [List.nil_append, assign, find?_eq_none_iff.mpr hp]
  | cons q before ih =>
    obtain ⟨id, q⟩ := q
    obtain ⟨r, hr⟩ := has_iff_exists_find?.mp (hbefore (id, q) List.mem_cons_self)
    simp only [List.cons_append, assign, hr]
    refine ih (fun x hx => ?_) ?_
    · exact (has_modify _ (prioritized_workspace q) ws id).mpr (hbefore x (List.mem_cons_of_mem _ hx))
    · rw [has_modify _ (prioritized_workspace q) ws id]
      exact hp

/-! ## The checks -/

theorem forM_checkPriority_of_nonneg (h : ∀ p ∈ ps, 0 ≤ p.2) :
    (ps.forM fun p => checkPriority p.2) = .ok () := by
  induction ps with
  | nil => rfl
  | cons p ps ih =>
    have hp : checkPriority p.2 = .ok () := if_neg (Int.not_lt.mpr (h p List.mem_cons_self))
    change (checkPriority p.2 >>= fun _ => ps.forM fun p => checkPriority p.2) = .ok ()
    rw [hp]
    exact ih fun q hq => h q (List.mem_cons_of_mem _ hq)

theorem forM_checkPriority_of_neg {before after : List (Int × Int)} {p : Int × Int}
    (hbefore : ∀ q ∈ before, 0 ≤ q.2) (hp : p.2 < 0) :
    ((before ++ p :: after).forM fun p => checkPriority p.2) = .error (.negativePriority p.2) := by
  have hneg : checkPriority p.2 = .error (.negativePriority p.2) := if_pos hp
  have happend : ((before ++ p :: after).forM fun p => checkPriority p.2) =
      (before.forM fun p => checkPriority p.2) >>= fun _ =>
        (p :: after).forM fun p => checkPriority p.2 := List.forM_append
  rw [happend, forM_checkPriority_of_nonneg hbefore]
  change (checkPriority p.2 >>= fun _ => after.forM fun p => checkPriority p.2) = _
  rw [hneg]
  rfl

/-! ## Outcomes -/

theorem reprioritize_of_valid (h : ∀ p ∈ ps, 0 ≤ p.2 ∧ s.Has ws p.1) : reprioritize ws ps s =
    (.ok (), s.mapRows (assigned ws ps) (assigned_id ws ps)) := by
  simp only [reprioritize, forM_checkPriority_of_nonneg fun p hp => (h p hp).1,
    assign_of_has fun p hp => (h p hp).2]

theorem reprioritize_of_negative {before after : List (Int × Int)} {p : Int × Int}
    (hbefore : ∀ q ∈ before, 0 ≤ q.2) (hp : p.2 < 0) : reprioritize ws (before ++ p :: after) s =
      (.error (.field (.negativePriority p.2)), s) := by
  simp only [reprioritize, forM_checkPriority_of_neg hbefore hp]

theorem reprioritize_of_not_has {before after : List (Int × Int)} {p : Int × Int}
    (h : ∀ q ∈ before ++ p :: after, 0 ≤ q.2) (hbefore : ∀ q ∈ before, s.Has ws q.1)
    (hp : ¬ s.Has ws p.1) :
    reprioritize ws (before ++ p :: after) s = (.error (.noRule p.1), s) := by
  simp only [reprioritize, forM_checkPriority_of_nonneg h, assign_of_not_has hbefore hp]

/-- All members of a list are as they should be, or there is a first one that is not. -/
theorem forall_or_first_not {α : Type} (P : α → Prop) [DecidablePred P] (l : List α) :
    (∀ a ∈ l, P a) ∨ ∃ before a after, l = before ++ a :: after ∧ (∀ b ∈ before, P b) ∧ ¬ P a := by
  cases h : l.find? fun a => ¬ P a with
  | none => exact Or.inl fun a ha => by simpa using List.find?_eq_none.mp h a ha
  | some a =>
    obtain ⟨ha, before, after, hl, hbefore⟩ := List.find?_eq_some_iff_append.mp h
    exact Or.inr ⟨before, a, after, hl, fun b hb => by simpa using hbefore b hb, by simpa using ha⟩

/-- **The three cases of setting priorities**: all pairs are valid, or there is a first one with a
negative priority, or there is none of these but a first one that names no rule. -/
theorem valid_or_negative_or_not_has (ws : String) (ps : List (Int × Int)) (s : Store) :
    (∀ p ∈ ps, 0 ≤ p.2 ∧ s.Has ws p.1) ∨
    (∃ before p after, ps = before ++ p :: after ∧ (∀ q ∈ before, 0 ≤ q.2) ∧ p.2 < 0) ∨
    ∃ before p after, ps = before ++ p :: after ∧ (∀ q ∈ ps, 0 ≤ q.2) ∧
      (∀ q ∈ before, s.Has ws q.1) ∧ ¬ s.Has ws p.1 := by
  rcases forall_or_first_not (fun p : Int × Int => 0 ≤ p.2) ps with
    hpos | ⟨before, p, after, hps, hbefore, hp⟩
  · rcases forall_or_first_not (fun p : Int × Int => s.Has ws p.1) ps with
      hhas | ⟨before, p, after, hps, hbefore, hp⟩
    · exact Or.inl fun p hp => ⟨hpos p hp, hhas p hp⟩
    · exact Or.inr (Or.inr ⟨before, p, after, hps, hpos, hbefore, hp⟩)
  · exact Or.inr (Or.inl ⟨before, p, after, hps, hbefore, Int.not_le.mp hp⟩)

theorem valid_or_fails (ws : String) (ps : List (Int × Int)) (s : Store) :
    (∀ p ∈ ps, 0 ≤ p.2 ∧ s.Has ws p.1) ∨ Fails (reprioritize ws ps) s := by
  rcases valid_or_negative_or_not_has ws ps s with
    hvalid | ⟨before, p, after, rfl, hbefore, hp⟩ | ⟨before, p, after, rfl, hpos, hbefore, hp⟩
  · exact Or.inl hvalid
  · exact Or.inr ⟨_, congrArg Prod.fst (reprioritize_of_negative hbefore hp)⟩
  · exact Or.inr ⟨_, congrArg Prod.fst (reprioritize_of_not_has hpos hbefore hp)⟩

/-! ## The order of the pairs -/

theorem lookup_eq_some_iff_mem {l : List (Int × Int)} (h : (l.map (·.1)).Nodup) {k v : Int} :
    l.lookup k = some v ↔ (k, v) ∈ l := by
  rw [List.lookup_eq_some_iff]
  constructor
  · rintro ⟨before, after, rfl, -⟩
    exact List.mem_append_right _ List.mem_cons_self
  · intro hmem
    obtain ⟨before, after, rfl⟩ := List.append_of_mem hmem
    refine ⟨before, after, rfl, fun p hp => ?_⟩
    rw [List.map_append, List.nodup_append] at h
    exact bne_iff_ne.mpr (h.2.2 p.1 (List.mem_map_of_mem hp) k (by simp)).symm

theorem assigned_perm {qs : List (Int × Int)} (h : (ps.map (·.1)).Nodup) (hperm : qs.Perm ps) :
    assigned ws qs = assigned ws ps := by
  have hlookup : ∀ id, qs.reverse.lookup id = ps.reverse.lookup id := fun id => by
    have hr : qs.reverse.Perm ps.reverse := (List.reverse_perm qs).trans
      (hperm.trans (List.reverse_perm ps).symm)
    have hps : (ps.reverse.map (·.1)).Nodup := by
      rw [List.map_reverse]
      exact List.nodup_reverse.mpr h
    have hqs : (qs.reverse.map (·.1)).Nodup := (hr.map _).nodup_iff.mpr hps
    refine Option.ext fun v => ?_
    rw [lookup_eq_some_iff_mem hqs, lookup_eq_some_iff_mem hps, hr.mem_iff]
  funext r
  simp only [assigned, hlookup]

/-! ## All or nothing -/

/-- **Setting the priorities of some rules.** If no priority is negative and every id is that of a
rule of the workspace, each row of the workspace gets the last priority that the pairs have for it and
nothing else changes. Otherwise the table stays as it was, and the fault is the first negative
priority, or without one the first id that is none of the workspace. Pairs for different rules may
stand in any order. -/
theorem reprioritize_all_or_nothing (ws : String) (ps : List (Int × Int)) (s : Store) :
    ((∀ p ∈ ps, 0 ≤ p.2 ∧ s.Has ws p.1) → (reprioritize ws ps s).1 = .ok () ∧
      (reprioritize ws ps s).2.rows = s.rows.map (assigned ws ps)) ∧
    (∀ before p after, ps = before ++ p :: after → (∀ q ∈ before, 0 ≤ q.2) → p.2 < 0 →
      reprioritize ws ps s = (.error (.field (.negativePriority p.2)), s)) ∧
    (∀ before p after, ps = before ++ p :: after → (∀ q ∈ ps, 0 ≤ q.2) →
      (∀ q ∈ before, s.Has ws q.1) → ¬ s.Has ws p.1 →
      reprioritize ws ps s = (.error (.noRule p.1), s)) ∧
    (∀ qs, qs.Perm ps → (ps.map (·.1)).Nodup → ¬ Fails (reprioritize ws ps) s →
      reprioritize ws qs s = reprioritize ws ps s) := by
  refine ⟨fun h => ?_, ?_, ?_, fun qs hperm hnodup hok => ?_⟩
  · rw [reprioritize_of_valid h]
    exact ⟨rfl, rfl⟩
  · rintro before p after rfl hbefore hp
    exact reprioritize_of_negative hbefore hp
  · rintro before p after rfl hpos hbefore hp
    exact reprioritize_of_not_has hpos hbefore hp
  · have hps := (valid_or_fails ws ps s).resolve_right hok
    have hqs : ∀ q ∈ qs, 0 ≤ q.2 ∧ s.Has ws q.1 := fun q hq => hps q (hperm.mem_iff.mp hq)
    rw [reprioritize_of_valid hps, reprioritize_of_valid hqs]
    simp only [assigned_perm hnodup hperm]

/-- A table with two rules of one workspace, the second of which cannot be read, and one of another. -/
def threeRows : Store where
  rows := [⟨1, "acme", "rent", none, .int 1, true, "contains", "rent", "auto_book", "4", .int 0, none⟩,
    ⟨2, "acme", "fee", none, .float, true, "fuzzy", "fee", "auto_book", "5", .int 3, some 7⟩,
    ⟨3, "other", "tax", none, .int 3, true, "contains", "tax", "auto_book", "6", .int 0, none⟩]
  keyed := by decide

theorem reprioritize_all_or_nothing_threeRows :
    ((∀ p ∈ [((1 : Int), (50 : Int)), (2, 7), (1, 20)], 0 ≤ p.2 ∧ threeRows.Has "acme" p.1) ∧
      (reprioritize "acme" [(1, 50), (2, 7), (1, 20)] threeRows).1 = .ok () ∧
      (reprioritize "acme" [(1, 50), (2, 7), (1, 20)] threeRows).2.rows.map (·.priority) =
        [.int 20, .int 7, .int 3]) ∧
    reprioritize "acme" [(3, 9), (1, -4), (2, -5)] threeRows =
      (.error (.field (.negativePriority (-4))), threeRows) ∧
    reprioritize "acme" [(1, 9), (3, 4)] threeRows = (.error (.noRule 3), threeRows) ∧
    reprioritize "acme" [(2, 7), (1, 20)] threeRows =
      reprioritize "acme" [(1, 20), (2, 7)] threeRows := by
  have hvalid : ∀ p ∈ [((1 : Int), (50 : Int)), (2, 7), (1, 20)],
      0 ≤ p.2 ∧ threeRows.Has "acme" p.1 := by decide
  obtain ⟨hok, hrows⟩ :=
    (reprioritize_all_or_nothing "acme" [(1, 50), (2, 7), (1, 20)] threeRows).1 hvalid
  refine ⟨⟨hvalid, hok, ?_⟩, ?_, ?_, ?_⟩
  · rw [hrows]
    decide
  · exact (reprioritize_all_or_nothing "acme" [(3, 9), (1, -4), (2, -5)] threeRows).2.1
      [(3, 9)] (1, -4) [(2, -5)] rfl (by decide) (by decide)
  · exact (reprioritize_all_or_nothing "acme" [(1, 9), (3, 4)] threeRows).2.2.1
      [(1, 9)] (3, 4) [] rfl (by decide) (by decide) (by decide)
  · refine (reprioritize_all_or_nothing "acme" [(1, 20), (2, 7)] threeRows).2.2.2
      [(2, 7), (1, 20)] (List.Perm.swap _ _ _) (by decide) ?_
    rintro ⟨e, he⟩
    have hok : (reprioritize "acme" [(1, 20), (2, 7)] threeRows).1 = .ok () := by decide
    rw [hok] at he
    cases he

end PostingRules.Store
