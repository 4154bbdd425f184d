import PostingRules.Proofs.Store.Evaluation
import PostingRules.Proofs.Store.NewRow

/-!
# A new rule above all others

A rule that is stored without a priority is placed above all rules of its workspace.

* `erase_append`: a row that is removed again leaves the table as it was;
* `listing_append`, `list_append`: a row above all others is listed first;
* `place_lt_newRow`: a new row is above all others;
* `exists_evaluate_eq_cons`: a rule above all others is the first match;
* `exists_create_eq_ok`: a rule is stored and read back;
* **`create_outranks`**: all of it, while no id is the largest number.
-/

namespace PostingRules.Store

open PostingRules.Text

variable {s : Store} {ws : String} {r : Row} {rs : List StoredRule} {x : StoredRule} {new : NewRule}

/-! ## A row above all others -/

/-- **A row that is removed again** leaves the table as it was. -/
theorem erase_append (h : r.id ∉ s.rows.map (·.id)) :
    (s.append r h).erase r.workspace r.id = s := by
  have hself : isRow r.workspace r.id r = true := isRow_iff.mpr ⟨rfl, rfl⟩
  have hkept : ∀ r' ∈ s.rows, (!isRow r.workspace r.id r') = true := by
    intro r' hr'
    rw [Bool.not_eq_true', ← Bool.not_eq_true, isRow_iff]
    exact fun hrow => h (hrow.1 ▸ List.mem_map_of_mem hr')
  apply Store.ext
  change (s.rows ++ [r]).filter (!isRow r.workspace r.id ·) = s.rows
  rw [List.filter_append, List.filter_eq_self.mpr hkept, List.filter_cons_of_neg (by simp [hself])]
  exact List.append_nil _

/-- **A row above all others** of its workspace is listed first. -/
theorem listing_append (h : r.id ∉ s.rows.map (·.id))
    (habove : ∀ r' ∈ s.rows, r'.workspace = r.workspace → r'.place < r.place) :
    (s.append r h).listing r.workspace = r :: s.listing r.workspace := by
  refine listing_eq_of_pairwise (fun r' => ?_) (List.pairwise_cons.mpr ⟨fun r' hr' => ?_, ?_⟩)
  · have hmem : r' ∈ (s.append r h).rows ↔ r' ∈ s.rows ∨ r' = r := by
      rw [append, List.mem_append, List.mem_singleton]
    rw [List.mem_cons, mem_listing, hmem, or_and_right, or_comm]
    exact or_congr_right ⟨fun e => ⟨e, by rw [e]⟩, And.left⟩
  · obtain ⟨hr', hws⟩ := mem_listing.mp hr'
    exact habove r' hr' hws
  · exact listing_pairwise s r.workspace

theorem list_append (h : r.id ∉ s.rows.map (·.id))
    (habove : ∀ r' ∈ s.rows, r'.workspace = r.workspace → r'.place < r.place) (hread : r.Reads x)
    (hlist : s.list r.workspace = .ok rs) : (s.append r h).list r.workspace = .ok (x :: rs) := by
  obtain ⟨hint, rfl⟩ := list_eq_ok_iff.mp hlist
  refine list_eq_ok_iff.mpr ⟨fun r' hr' hws => ?_, ?_⟩
  · rcases List.mem_append.mp hr' with hr' | hr'
    · exact hint r' hr' hws
    · rw [List.mem_singleton.mp hr']
      exact Row.integral_iff.mpr ⟨_, _, hread.priority, hread.usageCount⟩
  · rw [listing_append h habove, List.filterMap_cons_some (rule?_eq_some_iff.mpr hread)]

/-! ## Evaluations -/

/-- **A rule above all others** of its workspace is the first match, scored against itself. -/
theorem exists_evaluate_eq_cons {t : Transaction} (h : s.list ws = .ok (x :: rs))
    (habove : ∀ y ∈ rs, y.priority < x.priority) (hactive : x.active = true)
    (hholds : x.condition.holds x.value t = true) :
    ∃ es, s.evaluate ws t = .ok ((x.toRule.matchAt x.priority).evaluation :: es) := by
  have hfires : x.toRule.fires t = true := by
    rw [Rule.fires, hactive]
    exact hholds
  have hmem : x.toRule ∈ activeRules (x :: rs) :=
    List.mem_map_of_mem (List.mem_filter.mpr ⟨List.mem_cons_self, hactive⟩)
  have hrules : ∀ y ∈ activeRules (x :: rs), y.active = true → y ≠ x.toRule →
      y.priority < x.priority := by
    intro _ hrule _ hne
    obtain ⟨y, hy, rfl⟩ := List.mem_map.mp hrule
    rcases List.mem_cons.mp (List.mem_filter.mp hy).1 with rfl | hy
    · exact absurd rfl hne
    · exact habove y hy
  obtain ⟨ms, hms⟩ := exists_findMatches_eq_cons hmem hfires hrules
  refine ⟨ms.map Match.evaluation, ?_⟩
  rw [evaluate_of_list h, evaluations, hms]
  rfl

/-! ## New rules -/

/-- **A new row with the next priority** is above all others. -/
theorem place_lt_newRow {p : Int} (hnew : new.priority = none) (hp : s.nextPriority ws = .int p)
    (hnext : s.IsNextPriority ws p) (hint : ∀ r ∈ s.rows, r.workspace = ws → r.priority ≠ .float) :
    ∀ r ∈ s.rows, r.workspace = ws → r.place < (s.newRow ws new).place := by
  intro r hr hws
  obtain ⟨q, hq⟩ := Numeral.ne_float_iff.mp (hint r hr hws)
  have hpriority : (s.newRow ws new).priority = .int p := by simp only [newRow, hnew, hp]
  refine place_lt_iff.mpr (Or.inl ?_)
  rw [hq, hpriority]
  exact WithTop.coe_lt_coe.mpr (hnext.lt ⟨r, hr, hws, hq⟩)

/-- **A rule that is stored without a priority is read back.** -/
theorem exists_create_eq_ok (hfields : FieldsValid new.name new.description new.value new.target)
    (hnew : new.priority = none) (hint : ∀ r ∈ s.rows, r.workspace = ws → r.Integral)
    (hmax : ∀ p ∈ s.priorities ws, p < maxInt64) :
    ∃ x p, (s.newRow ws new).Reads x ∧ s.nextPriority ws = .int p ∧ s.IsNextPriority ws p ∧
      create ws new s = (.ok x, s.append (s.newRow ws new) (s.newRow_id_notMem ws new)) := by
  obtain ⟨p, hp, hnext⟩ := exists_nextPriority (fun r hr hws => (hint r hr hws).1) hmax
  have hcheck : new.check = .ok () :=
    NewRule.check_eq_ok_iff.mpr ⟨hfields, fun q hq => by rw [hnew] at hq; cases hq⟩
  have hrow : (s.newRow ws new).priority = .int p := by simp only [newRow, hnew, hp]
  have hintegral : (s.newRow ws new).Integral := Row.integral_iff.mpr ⟨p, 0, hrow, rfl⟩
  obtain ⟨x, hread⟩ := hintegral.exists_reads (ConditionKind.ofName?_name new.condition)
    (ActionKind.ofName?_name new.action)
  refine ⟨x, p, hread, hp, hnext, ?_⟩
  rw [create_of_ok hcheck, read_eq_ok_iff.mpr hread]

/-- **A rule that is stored without a priority outranks its workspace.** Where no number of the
workspace has left the integers, no priority is the largest number and no id of the table is, a rule with
valid fields is stored. It has the fields that are given, an id above all ids of the table, the priority
that is one above all others, and has not been used. It stands in one row behind the others. It is listed
first, in front of the rules as they were listed before, and where it is active it is the first match of
every transaction on which its condition holds. Removing it restores the table. -/
theorem create_outranks (hfields : FieldsValid new.name new.description new.value new.target)
    (hnew : new.priority = none) (hint : ∀ r ∈ s.rows, r.workspace = ws → r.Integral)
    (hmax : ∀ p ∈ s.priorities ws, p < maxInt64) (hids : ∀ r ∈ s.rows, r.id < maxInt64) :
    ∃ x s', create ws new s = (.ok x, s') ∧
      (new.StoredAs x ∧ x.workspace = ws ∧ x.usageCount = 0 ∧ x.lastMatch = none) ∧
      (∀ r ∈ s.rows, r.id < x.id) ∧ s.IsNextPriority ws x.priority ∧
      (∃ row : Row, row.Reads x ∧ s'.rows = s.rows ++ [row]) ∧
      (∃ rs, s.list ws = .ok rs ∧ s'.list ws = .ok (x :: rs)) ∧
      (x.active = true → ∀ t, x.condition.holds x.value t = true → ∃ es, s'.evaluate ws t =
        .ok (⟨x.id, x.name, x.action, x.target, x.priority,
          score x.condition x.priority x.priority⟩ :: es)) ∧
      delete ws x.id s' = (.ok (), s) := by
  obtain ⟨x, p, hread, hp, hnext, hcreate⟩ := exists_create_eq_ok hfields hnew hint hmax
  have habove := place_lt_newRow hnew hp hnext fun r hr hws => (hint r hr hws).1
  have hid : s.nextId = x.id := hread.id
  have hxp : x.priority = p := by
    refine Numeral.int.inj (hread.priority.symm.trans ?_)
    simp only [newRow, hnew, hp]
  have hlist := list_eq_ok_iff.mpr ⟨hint, rfl⟩
  have hlist' := list_append (s.newRow_id_notMem ws new) habove hread hlist
  refine ⟨x, _, hcreate, ?_, fun r hr => hid ▸ lt_nextId hids hr, hxp ▸ hnext,
    ⟨_, hread, rfl⟩, ⟨_, hlist, hlist'⟩, fun hactive t hholds => ?_, ?_⟩
  · exact ⟨storedAs_of_reads hread, hread.workspace.symm, Numeral.int.inj hread.usageCount.symm,
      hread.lastMatch.symm⟩
  · refine exists_evaluate_eq_cons hlist' (fun y hy => ?_) hactive hholds
    obtain ⟨r, hr, hws, hy⟩ := (mem_of_list hlist).mp hy
    exact hxp ▸ hnext.lt ⟨r, hr, hws, hy.priority⟩
  · have hfind : (s.append (s.newRow ws new) (s.newRow_id_notMem ws new)).find? ws s.nextId =
        some (s.newRow ws new) := find?_append (s.newRow_id_notMem ws new)
    rw [← hid, delete, hfind]
    exact congrArg _ (erase_append (s.newRow_id_notMem ws new))

/-- A rule on one text, without a priority. -/
def depositRule : NewRule :=
  ⟨"deposit", none, none, true, .contains, "dep", .suggestAccount, "1930"⟩

/-- The highest priority is that of a row of no kind, and of one that is switched off. -/
theorem create_outranks_mixedRows :
    FieldsValid depositRule.name depositRule.description depositRule.value depositRule.target ∧
      depositRule.priority = none ∧
      (∀ r ∈ mixedRows.rows, r.workspace = "acme" → r.Integral) ∧
      (∀ p ∈ mixedRows.priorities "acme", p < maxInt64) ∧
      (∀ r ∈ mixedRows.rows, r.id < maxInt64) ∧
      ∃ x s', create "acme" depositRule mixedRows = (.ok x, s') ∧ x.id = 7 ∧ x.priority = 10 ∧
        (∃ rs, s'.list "acme" = .ok (x :: rs)) ∧
        (∃ e es, s'.evaluate "acme" ⟨"rent deposit", .zero⟩ = .ok (e :: es) ∧ e.ruleId = 7) ∧
        delete "acme" 7 s' = (.ok (), mixedRows) := by
  have hfields := checkFields_eq_ok_iff.mp (by decide : checkFields depositRule.name
    depositRule.description depositRule.value depositRule.target = .ok ())
  have hint : ∀ r ∈ mixedRows.rows, r.workspace = "acme" → r.Integral := by decide
  have hmax : ∀ p ∈ mixedRows.priorities "acme", p < maxInt64 := by
    rintro p ⟨r, hr, -, hp⟩
    have hnine : ∀ r ∈ mixedRows.rows, r.priority ∈ [.int 2, .int 5, .int 9] := by decide
    have hrow := hnine r hr
    rw [hp] at hrow
    simp only [List.mem_cons, Numeral.int.injEq, List.not_mem_nil, or_false] at hrow
    rcases hrow with rfl | rfl | rfl <;> decide
  have hids : ∀ r ∈ mixedRows.rows, r.id < maxInt64 := by decide
  obtain ⟨x, s', hcreate, ⟨hstored, -⟩, -, -, -, ⟨rs, -, hlist⟩, hfirst, hdelete⟩ :=
    create_outranks hfields rfl hint hmax hids
  have hanswer : (create "acme" depositRule mixedRows).1.map (fun x => (x.id, x.priority)) =
      .ok (7, 10) := by decide
  rw [hcreate, Except.map, Except.ok.injEq, Prod.mk.injEq] at hanswer
  obtain ⟨hid, hpriority⟩ := hanswer
  have hholds : x.condition.holds x.value ⟨"rent deposit", .zero⟩ = true := by
    rw [hstored.condition, hstored.value]
    decide
  obtain ⟨es, hes⟩ := hfirst hstored.active _ hholds
  exact ⟨hfields, rfl, hint, hmax, hids, x, s', hcreate, hid, hpriority, ⟨rs, hlist⟩,
    ⟨_, es, hes, hid⟩, hid ▸ hdelete⟩

/-- A table with a rule whose id is the largest number. -/
def fullIds : Store where
  rows := [textRow maxInt64 (.int 2) "contains" "rent" true]
  keyed := by decide

/-- **Behind the largest number** there is no id above all others. -/
theorem create_below_fullIds :
    FieldsValid depositRule.name depositRule.description depositRule.value depositRule.target ∧
      depositRule.priority = none ∧
      (∀ r ∈ fullIds.rows, r.workspace = "acme" → r.Integral) ∧
      (∀ p ∈ fullIds.priorities "acme", p < maxInt64) ∧
      ∃ x s', create "acme" depositRule fullIds = (.ok x, s') ∧ ∃ r ∈ fullIds.rows, x.id < r.id := by
  have hfields := checkFields_eq_ok_iff.mp (by decide : checkFields depositRule.name
    depositRule.description depositRule.value depositRule.target = .ok ())
  have hint : ∀ r ∈ fullIds.rows, r.workspace = "acme" → r.Integral := by decide
  have hmax : ∀ p ∈ fullIds.priorities "acme", p < maxInt64 := by
    rintro p ⟨r, hr, -, hp⟩
    rw [List.mem_singleton.mp hr] at hp
    cases hp
    decide
  obtain ⟨x, -, hread, -, -, hcreate⟩ := exists_create_eq_ok hfields rfl hint hmax
  refine ⟨hfields, rfl, hint, hmax, x, _, hcreate, _, List.mem_singleton_self _, ?_⟩
  rw [← show fullIds.nextId = x.id from hread.id]
  decide +kernel

end PostingRules.Store
