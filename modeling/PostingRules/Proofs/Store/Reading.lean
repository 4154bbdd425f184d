import PostingRules.Store.Basic
import Mathlib.Logic.Basic

/-!
# Reading rows

* `Row.Reads`: a rule is what a row holds; **`read_eq_ok_iff`**: reading gives just this rule;
* `Row.Integral`: both numbers of a row are integers;
* **`exists_read_eq_error_iff`**: when reading fails.
-/

namespace PostingRules

/-- The rule `x` is what the row holds. -/
structure Row.Reads (r : Row) (x : StoredRule) : Prop where
  priority : r.priority = .int x.priority
  usageCount : r.usageCount = .int x.usageCount
  condition : ConditionKind.ofName? r.condition = some x.condition
  action : ActionKind.ofName? r.action = some x.action
  id : r.id = x.id
  workspace : r.workspace = x.workspace
  name : r.name = x.name
  description : r.description = x.description
  active : r.active = x.active
  value : r.value = x.value
  target : r.target = x.target
  lastMatch : r.lastMatch = x.lastMatch

/-- Both numbers of the row are integers. -/
def Row.Integral (r : Row) : Prop := r.priority ≠ .float ∧ r.usageCount ≠ .float

instance (r : Row) : Decidable r.Integral :=
  inferInstanceAs (Decidable (r.priority ≠ .float ∧ r.usageCount ≠ .float))

theorem Numeral.ne_float_iff {a : Numeral} : a ≠ .float ↔ ∃ n, a = .int n := by
  cases a <;> simp

theorem Row.integral_iff {r : Row} :
    r.Integral ↔ ∃ p n, r.priority = .int p ∧ r.usageCount = .int n := by
  rw [Integral, Numeral.ne_float_iff, Numeral.ne_float_iff]
  simp only [exists_and_left, exists_and_right]

/-- The rule of a row, if it can be read. -/
def Row.rule? (r : Row) : Option StoredRule := r.read.toOption

theorem cells_eq_ok_iff {r : Row} {c : Cells} : r.cells = .ok c ↔
    c.row = r ∧ r.priority = .int c.priority ∧ r.usageCount = .int c.usageCount := by
  obtain ⟨row, p, n⟩ := c
  unfold Row.cells
  constructor
  · intro h
    split at h
    · rename_i hp hn
      cases h
      exact ⟨rfl, hp, hn⟩
    · cases h
    · cases h
  · rintro ⟨rfl, hp, hn⟩
    simp only at hp hn
    rw [hp, hn]

theorem rule_eq_ok_iff {c : Cells} {x : StoredRule} : c.rule = .ok x ↔
    ConditionKind.ofName? c.row.condition = some x.condition ∧
      ActionKind.ofName? c.row.action = some x.action ∧ c.row.id = x.id ∧
      c.row.workspace = x.workspace ∧ c.row.name = x.name ∧ c.row.description = x.description ∧
      c.priority = x.priority ∧ c.row.active = x.active ∧ c.row.value = x.value ∧
      c.row.target = x.target ∧ c.usageCount = x.usageCount ∧ c.row.lastMatch = x.lastMatch := by
  obtain ⟨⟨id, name, priority, active, condition, value, action, target⟩, workspace, description,
    usageCount, lastMatch⟩ := x
  unfold Cells.rule
  constructor
  · intro h
    split at h
    · rename_i hc ha
      cases h
      exact ⟨hc, ha, rfl, rfl, rfl, rfl, rfl, rfl, rfl, rfl, rfl, rfl⟩
    · cases h
    · cases h
  · rintro ⟨hc, ha, rfl, rfl, rfl, rfl, rfl, rfl, rfl, rfl, rfl, rfl⟩
    rw [hc, ha]

/-- **Reading a row** gives the rule that it holds. -/
theorem read_eq_ok_iff {r : Row} {x : StoredRule} : r.read = .ok x ↔ r.Reads x := by
  constructor
  · intro h
    unfold Row.read at h
    cases hc : r.cells with
    | error e => rw [hc] at h; cases h
    | ok c =>
      rw [hc] at h
      obtain ⟨rfl, hp, hn⟩ := cells_eq_ok_iff.mp hc
      obtain ⟨h1, h2, h3, h4, h5, h6, h7, h8, h9, h10, h11, h12⟩ := rule_eq_ok_iff.mp h
      exact ⟨h7 ▸ hp, h11 ▸ hn, h1, h2, h3, h4, h5, h6, h8, h9, h10, h12⟩
  · intro h
    have hc : r.cells = .ok ⟨r, x.priority, x.usageCount⟩ :=
      cells_eq_ok_iff.mpr ⟨rfl, h.priority, h.usageCount⟩
    rw [Row.read, hc]
    exact rule_eq_ok_iff.mpr ⟨h.condition, h.action, h.id, h.workspace, h.name, h.description, rfl,
      h.active, h.value, h.target, rfl, h.lastMatch⟩

theorem rule?_eq_some_iff {r : Row} {x : StoredRule} : r.rule? = some x ↔ r.Reads x := by
  rw [← read_eq_ok_iff, Row.rule?]
  cases r.read <;> simp [Except.toOption]

theorem Row.Integral.exists_reads {r : Row} (h : r.Integral) {k : ConditionKind} {a : ActionKind}
    (hk : ConditionKind.ofName? r.condition = some k) (ha : ActionKind.ofName? r.action = some a) :
    ∃ x, r.Reads x := by
  obtain ⟨p, n, hp, hn⟩ := Row.integral_iff.mp h
  exact ⟨⟨⟨r.id, r.name, p, r.active, k, r.value, a, r.target⟩, r.workspace, r.description, n,
    r.lastMatch⟩, ⟨hp, hn, hk, ha, rfl, rfl, rfl, rfl, rfl, rfl, rfl, rfl⟩⟩

/-- **Reading a row fails** if a number of it is no integer or it does not name kinds. -/
theorem exists_read_eq_error_iff {r : Row} : (∃ e, r.read = .error e) ↔
    r.priority = .float ∨ r.usageCount = .float ∨ ConditionKind.ofName? r.condition = none ∨
      ActionKind.ofName? r.action = none := by
  have hok : (∃ e, r.read = .error e) ↔ ¬ ∃ x, r.Reads x := by
    simp only [← read_eq_ok_iff]
    cases r.read <;> simp
  rw [hok, ← not_iff_not, not_not]
  simp only [not_or, Option.ne_none_iff_exists', Numeral.ne_float_iff, ← ne_eq]
  constructor
  · rintro ⟨x, hx⟩
    exact ⟨⟨_, hx.priority⟩, ⟨_, hx.usageCount⟩, ⟨_, hx.condition⟩, ⟨_, hx.action⟩⟩
  · rintro ⟨⟨p, hp⟩, ⟨n, hn⟩, ⟨k, hk⟩, ⟨a, ha⟩⟩
    exact (Row.integral_iff.mpr ⟨p, n, hp, hn⟩).exists_reads hk ha

end PostingRules
