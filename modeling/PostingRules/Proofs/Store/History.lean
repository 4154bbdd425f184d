import PostingRules.Proofs.Store.Change
import PostingRules.Proofs.Store.Coherence
import PostingRules.Proofs.Store.NewRow
import Mathlib.Data.List.Induction

/-!
# Tables behind a history of calls

* `History`, `follow`, `after`: calls of any workspaces one after another, and the table behind them,
  from any table or from an empty one;
* `Row.Valid`: what holds of a row; `Row.Becomes.valid`, `valid_newRow`: no call takes it away;
* `valid_of_mem_after`: it holds of every row behind a history;
* `priority_float_of_mem_run`, `usageCount_float_of_mem_run`: where floating numbers come from;
* `exists_list_of_valid`: without them every row of a workspace can be read;
* **`after_represents`**: all of it.
-/

namespace PostingRules

open PostingRules.Text

/-- **What holds of a row** behind every history of calls: the id is positive, the fields are as they
must be, the row names kinds, and neither number is negative. -/
structure Row.Valid (r : Row) : Prop where
  id_pos : 0 < r.id
  fields : FieldsValid r.name r.description r.value r.target
  condition : ∃ k, ConditionKind.ofName? r.condition = some k
  action : ∃ a, ActionKind.ofName? r.action = some a
  priority : r.priority = .float ∨ ∃ p, r.priority = .int p ∧ 0 ≤ p
  usageCount : r.usageCount = .float ∨ ∃ n, r.usageCount = .int n ∧ 0 ≤ n

/-- A number that is not negative if it is an integer. -/
theorem Numeral.float_or_nonneg_iff {a : Numeral} :
    (a = .float ∨ ∃ n, a = .int n ∧ 0 ≤ n) ↔ ∀ n, a = .int n → 0 ≤ n := by
  cases a <;> simp

theorem Row.Becomes.valid {ws : String} {c : Store.Call} {r r' : Row}
    (h : r.Becomes ws c (some r')) (hr : r.Valid) : r'.Valid := by
  cases h with
  | kept _ => exact hr
  | overwritten _ _ new hnew =>
    obtain ⟨hfields, hp⟩ := StoredRule.check_eq_ok_iff.mp hnew
    exact ⟨hr.id_pos, hfields, ⟨_, ConditionKind.ofName?_name _⟩, ⟨_, ActionKind.ofName?_name _⟩,
      Or.inr ⟨_, rfl, hp⟩, hr.usageCount⟩
  | prioritized _ _ _ p hp => exact { hr with priority := Or.inr ⟨p, rfl, hp⟩ }
  | used _ now _ =>
    refine { hr with usageCount := ?_ }
    rw [Numeral.float_or_nonneg_iff]
    exact Numeral.succ_nonneg (Numeral.float_or_nonneg_iff.mp hr.usageCount)

namespace Store

variable {ws : String} {c : Call} {s : Store}

/-! ## Histories -/

/-- Calls of workspaces, one after another. -/
abbrev History := List (String × Call)

/-- The table behind a history that begins with the table `s`. -/
def follow (s : Store) (h : History) : Store := h.foldl (fun s x => (x.2.run x.1 s).2) s

/-- **The table behind a history**, which begins with an empty one. -/
def after (h : History) : Store := follow {} h

theorem follow_cons (s : Store) (x : String × Call) (h : History) :
    s.follow (x :: h) = (x.2.run x.1 s).2.follow h := rfl

theorem after_append (h h' : History) : after (h ++ h') = (after h).follow h' := by
  rw [after, follow, List.foldl_append]
  rfl

theorem after_concat (h : History) (x : String × Call) :
    after (h ++ [x]) = (x.2.run x.1 (after h)).2 := after_append h [x]

theorem valid_newRow (h : ∀ r ∈ s.rows, r.Valid) {new : NewRule} (hnew : new.check = .ok ()) :
    (s.newRow ws new).Valid := by
  obtain ⟨hfields, hp⟩ := NewRule.check_eq_ok_iff.mp hnew
  refine ⟨nextId_pos fun r hr => (h r hr).id_pos, hfields, ⟨_, ConditionKind.ofName?_name _⟩,
    ⟨_, ActionKind.ofName?_name _⟩, ?_, Or.inr ⟨0, rfl, le_rfl⟩⟩
  rw [Numeral.float_or_nonneg_iff]
  cases hpriority : new.priority with
  | none =>
    simp only [newRow, hpriority]
    exact nextPriority_nonneg fun r hr => Numeral.float_or_nonneg_iff.mp (h r hr).priority
  | some p =>
    simp only [newRow, hpriority, Numeral.int.injEq]
    rintro _ rfl
    exact hp _ hpriority

theorem valid_of_mem_run (h : ∀ r ∈ s.rows, r.Valid) : ∀ r ∈ (c.run ws s).2.rows, r.Valid := by
  intro r' hr'
  rcases (run_changes ws c s).comes r' hr' with ⟨r, hr, hbecomes⟩ | ⟨new, -, hnew, rfl⟩
  · exact hbecomes.valid (h r hr)
  · exact valid_newRow h hnew

theorem valid_of_mem_after (h : History) : ∀ r ∈ (after h).rows, r.Valid := by
  induction h using List.reverseRecOn with
  | nil => exact fun r hr => absurd hr List.not_mem_nil
  | append_singleton h x ih =>
    rw [after_concat]
    exact valid_of_mem_run ih

/-! ## Floating numbers -/

theorem newRow_priority_eq_float_iff {new : NewRule} : (s.newRow ws new).priority = .float ↔
    new.priority = none ∧ (s.topPriority ws = .int maxInt64 ∨ s.topPriority ws = .float) := by
  rw [← Numeral.succ_eq_float_iff]
  cases h : new.priority <;> simp [newRow, h, nextPriority]

/-- **A floating priority** was there before the call, or a rule without a priority of its own was
stored above the largest one or a floating one. -/
theorem priority_float_of_mem_run {r' : Row} (hr' : r' ∈ (c.run ws s).2.rows)
    (hfloat : r'.priority = .float) : (∃ r ∈ s.rows, r.id = r'.id ∧ r.priority = .float) ∨
      ∃ new, c = .create new ∧ new.priority = none ∧ r' = s.newRow ws new ∧
        (s.topPriority ws = .int maxInt64 ∨ s.topPriority ws = .float) := by
  rcases (run_changes ws c s).comes r' hr' with ⟨r, hr, hbecomes⟩ | ⟨new, hc, -, rfl⟩
  · refine Or.inl ⟨r, hr, hbecomes.id_eq.symm, ?_⟩
    cases hbecomes with
    | kept _ => exact hfloat
    | overwritten _ _ new _ => cases hfloat
    | prioritized _ _ _ p _ => cases hfloat
    | used _ now _ => exact hfloat
  · obtain ⟨hnone, htop⟩ := newRow_priority_eq_float_iff.mp hfloat
    exact Or.inr ⟨new, hc, hnone, rfl, htop⟩

/-- **A floating count** was there before the call, or a rule was used whose count was the largest. -/
theorem usageCount_float_of_mem_run {r' : Row} (hr' : r' ∈ (c.run ws s).2.rows)
    (hfloat : r'.usageCount = .float) : ∃ r ∈ s.rows, r.id = r'.id ∧ (r.usageCount = .float ∨
      r.workspace = ws ∧ r.usageCount = .int maxInt64 ∧ ∃ now, c = .recordMatch r.id now) := by
  rcases (run_changes ws c s).comes r' hr' with ⟨r, hr, hbecomes⟩ | ⟨new, -, -, rfl⟩
  · refine ⟨r, hr, hbecomes.id_eq.symm, ?_⟩
    cases hbecomes with
    | kept _ => exact Or.inl hfloat
    | overwritten _ _ new _ => exact Or.inl hfloat
    | prioritized _ _ _ p _ => exact Or.inl hfloat
    | used hws now hc =>
      rcases Numeral.succ_eq_float_iff.mp hfloat with hmax | hfloat
      · exact Or.inr ⟨hws, hmax, now, hc⟩
      · exact Or.inl hfloat
  · cases hfloat

/-! ## Reading -/

theorem forall₂_reads {l : List Row} (h : ∀ r ∈ l, ∃ x, r.Reads x) :
    List.Forall₂ Row.Reads l (l.filterMap Row.rule?) := by
  have hint : ∀ r ∈ l, r.Integral := fun r hr => by
    obtain ⟨x, hx⟩ := h r hr
    exact Row.integral_iff.mpr ⟨_, _, hx.priority, hx.usageCount⟩
  have hkinds : l.filter (·.NamesKinds) = l := List.filter_eq_self.mpr fun r hr => by
    obtain ⟨x, hx⟩ := h r hr
    exact decide_eq_true hx.namesKinds
  have hreads := forall₂_reads_filterMap hint
  rwa [hkinds] at hreads

/-- **A valid workspace without floating numbers** can be listed in full, and each of its rules can be
read. -/
theorem exists_list_of_valid (hvalid : ∀ r ∈ s.rows, r.Valid)
    (hint : ∀ r ∈ s.rows, r.workspace = ws → r.Integral) :
    (∃ rs, s.list ws = .ok rs ∧ List.Forall₂ Row.Reads (s.listing ws) rs) ∧
      ∀ r ∈ s.rows, r.workspace = ws → ∃ x, r.Reads x ∧ s.get ws r.id = .ok x := by
  have hreads : ∀ r ∈ s.rows, r.workspace = ws → ∃ x, r.Reads x := fun r hr hws =>
    (hint r hr hws).exists_reads (hvalid r hr).condition.choose_spec (hvalid r hr).action.choose_spec
  refine ⟨⟨_, list_eq_ok_iff.mpr ⟨hint, rfl⟩, forall₂_reads fun r hr => ?_⟩, fun r hr hws => ?_⟩
  · obtain ⟨hr, hws⟩ := mem_listing.mp hr
    exact hreads r hr hws
  · obtain ⟨x, hx⟩ := hreads r hr hws
    exact ⟨x, hx, get_eq_ok_iff.mpr ⟨r, find?_eq_some_iff.mpr ⟨hr, rfl, hws⟩, hx⟩⟩

/-! ## Whole histories -/

/-- **The table behind every history** has distinct ids, and each of its rows is valid. A call puts a
floating priority into it only by storing a rule without one above the largest or a floating one, and
a floating count only by using a rule whose count is the largest. A workspace without floating
numbers can be listed in full and evaluated, and each of its rules can be read. -/
theorem after_represents (h : History) :
    ((after h).rows.map (·.id)).Nodup ∧ (∀ r ∈ (after h).rows, r.Valid) ∧
    (∀ ws c, ∀ r' ∈ (Call.run ws c (after h)).2.rows, r'.priority = .float →
      (∃ r ∈ (after h).rows, r.id = r'.id ∧ r.priority = .float) ∨
      ∃ new, c = .create new ∧ new.priority = none ∧ r' = (after h).newRow ws new ∧
        ((after h).topPriority ws = .int maxInt64 ∨ (after h).topPriority ws = .float)) ∧
    (∀ ws c, ∀ r' ∈ (Call.run ws c (after h)).2.rows, r'.usageCount = .float →
      ∃ r ∈ (after h).rows, r.id = r'.id ∧ (r.usageCount = .float ∨
        r.workspace = ws ∧ r.usageCount = .int maxInt64 ∧ ∃ now, c = .recordMatch r.id now)) ∧
    ∀ ws, (∀ r ∈ (after h).rows, r.workspace = ws → r.priority ≠ .float ∧ r.usageCount ≠ .float) →
      (∃ rs, (after h).list ws = .ok rs ∧ List.Forall₂ Row.Reads ((after h).listing ws) rs ∧
        (after h).listActive ws = .ok (rs.filter (·.active)) ∧
        ∀ t, (after h).evaluate ws t = .ok (evaluations (activeRules rs) t)) ∧
      ∀ r ∈ (after h).rows, r.workspace = ws → ∃ x, r.Reads x ∧ (after h).get ws r.id = .ok x := by
  refine ⟨(after h).keyed, valid_of_mem_after h, fun ws c r' hr' => priority_float_of_mem_run hr',
    fun ws c r' hr' => usageCount_float_of_mem_run hr', fun ws hint => ?_⟩
  obtain ⟨⟨rs, hlist, hreads⟩, hget⟩ := exists_list_of_valid (valid_of_mem_after h) hint
  have hactive : (after h).listActive ws = .ok (rs.filter (·.active)) := by
    rw [listActive, hlist]
    rfl
  refine ⟨⟨rs, hlist, hreads, hactive, fun t => ?_⟩, hget⟩
  rw [evaluate, hactive]
  rfl

/-- A rule on rents with a priority of its own or without one. -/
def rentRule (priority : Option Int) : NewRule :=
  ⟨"rent", none, priority, true, .contains, "rent", .autoBook, "4"⟩

/-- A history that fills up the priorities of one workspace and uses a rule of another. -/
def fullWorkspace : History :=
  [("full", .create (rentRule (some maxInt64))), ("full", .create (rentRule none)),
    ("acme", .create (rentRule none)), ("acme", .recordMatch 3 7), ("full", .recordMatch 2 8)]

theorem after_represents_fullWorkspace :
    ((∃ r ∈ (after fullWorkspace).rows, r.workspace = "full" ∧ r.priority = .float) ∧
      ∀ r ∈ (after fullWorkspace).rows, r.workspace = "acme" →
        r.priority ≠ .float ∧ r.usageCount ≠ .float) ∧
    (∃ rs, (after fullWorkspace).list "acme" = .ok rs ∧
      List.Forall₂ Row.Reads ((after fullWorkspace).listing "acme") rs) ∧
    ∀ r ∈ (after fullWorkspace).rows, r.workspace = "acme" →
      ∃ x, r.Reads x ∧ (after fullWorkspace).get "acme" r.id = .ok x := by
  have hint : ∀ r ∈ (after fullWorkspace).rows, r.workspace = "acme" →
      r.priority ≠ .float ∧ r.usageCount ≠ .float := by decide
  obtain ⟨⟨rs, hlist, hreads, -⟩, hget⟩ := (after_represents fullWorkspace).2.2.2.2 "acme" hint
  exact ⟨⟨by decide, hint⟩, ⟨rs, hlist, hreads⟩, hget⟩

end Store

end PostingRules
