import PostingRules.Proofs.Store.Call
import PostingRules.Proofs.Store.Reading
import PostingRules.Proofs.Store.Rows

/-!
# What failed calls leave behind

A row is written before it is read back, so a call can fail and leave its write in the table.

* `create_of_ok`, `update_of_ok`: what is written and answered where the fields are as they must be;
* `update_of_fails`, `delete_of_fails`, `reprioritize_of_fails`: operations that fail in front of
  their write;
* `Row.Spoils`: a row cannot be read once it was used again;
* `Call.Strands`: a call fails behind its write;
* **`fails_and_changes_iff_strands`**: no other call fails and changes the table.
-/

namespace PostingRules

theorem Numeral.succ_eq_float_iff {a : Numeral} :
    a.succ = .float ↔ a = .int Text.maxInt64 ∨ a = .float := by
  cases a with
  | int n => by_cases h : n = Text.maxInt64 <;> simp [succ, h]
  | float => simp [succ]

theorem Numeral.succ_eq_self_iff {a : Numeral} : a.succ = a ↔ a = .float := by
  cases a with
  | int n =>
    rw [succ]
    split
    · simp
    · simp only [int.injEq, reduceCtorEq, iff_false]
      omega
  | float => simp [succ]

/-- The row cannot be read once it was used again. -/
def Row.Spoils (r : Row) : Prop :=
  r.priority = .float ∨ r.usageCount = .int Text.maxInt64 ∨ r.usageCount = .float ∨
    ConditionKind.ofName? r.condition = none ∨ ActionKind.ofName? r.action = none

namespace Store

variable {s : Store} {ws : String} {id : Int}

theorem get_eq_ok_iff {x : StoredRule} :
    s.get ws id = .ok x ↔ ∃ r, s.find? ws id = some r ∧ r.Reads x := by
  rw [get]
  cases s.find? ws id with
  | none => simp
  | some r => simp [read_eq_ok_iff]

/-! ## Storing a rule -/

theorem create_of_error {r : NewRule} {f : FieldFault} (h : r.check = .error f) :
    create ws r s = (.error (.field f), s) := by
  rw [create, h]

theorem create_of_ok {r : NewRule} (h : r.check = .ok ()) : create ws r s =
    ((s.newRow ws r).read, s.append (s.newRow ws r) (s.newRow_id_notMem ws r)) := by
  have hfind : (s.append (s.newRow ws r) (s.newRow_id_notMem ws r)).find? ws s.nextId =
      some (s.newRow ws r) := find?_append (s.newRow_id_notMem ws r)
  rw [create, h]
  simp only [get, hfind]

theorem newRow_read_fails_iff {r : NewRule} : (∃ e, (s.newRow ws r).read = .error e) ↔
    r.priority = none ∧ (s.topPriority ws = .int Text.maxInt64 ∨ s.topPriority ws = .float) := by
  rw [exists_read_eq_error_iff, ← Numeral.succ_eq_float_iff]
  cases h : r.priority with
  | none =>
    simp [newRow, h, nextPriority, ConditionKind.ofName?_name, ActionKind.ofName?_name]
  | some p => simp [newRow, h, ConditionKind.ofName?_name, ActionKind.ofName?_name]

theorem create_fails_and_changes_iff {r : NewRule} :
    Fails (create ws r) s ∧ (create ws r s).2 ≠ s ↔ r.check = .ok () ∧ r.priority = none ∧
      (s.topPriority ws = .int Text.maxInt64 ∨ s.topPriority ws = .float) := by
  cases h : r.check with
  | error f => simp [create_of_error h]
  | ok _ =>
    rw [Fails, create_of_ok h, newRow_read_fails_iff]
    exact ⟨fun hf => ⟨rfl, hf.1⟩, fun hf => ⟨hf.2, append_ne (s.newRow_id_notMem ws r)⟩⟩

/-! ## Changing a rule -/

theorem overwrite_reads {r : Row} {old : StoredRule} (h : r.Reads old) (u : RuleUpdate) :
    (overwrite (u.onto old) r).Reads (u.onto old) :=
  ⟨rfl, h.usageCount, ConditionKind.ofName?_name _, ActionKind.ofName?_name _, h.id, h.workspace,
    rfl, rfl, rfl, rfl, rfl, h.lastMatch⟩

theorem update_of_error {old : StoredRule} {u : RuleUpdate} {f : FieldFault}
    (h : s.get ws id = .ok old) (hf : (u.onto old).check = .error f) :
    update ws id u s = (.error (.field f), s) := by
  simp only [update, h, hf]

theorem update_of_ok {old : StoredRule} {u : RuleUpdate} (h : s.get ws id = .ok old)
    (hok : (u.onto old).check = .ok ()) : update ws id u s =
      (.ok (u.onto old), s.modify ws id (overwrite (u.onto old)) (overwrite_id _)) := by
  obtain ⟨r, hr, hread⟩ := get_eq_ok_iff.mp h
  have hget : (s.modify ws id (overwrite (u.onto old)) (overwrite_id _)).get ws id =
      .ok (u.onto old) := by
    refine get_eq_ok_iff.mpr ⟨_, ?_, overwrite_reads hread u⟩
    rw [find?_modify (overwrite_id _) (overwrite_workspace _), hr, Option.map_some]
  simp only [update, h, hok, hget]

theorem update_of_fails {u : RuleUpdate} (h : Fails (update ws id u) s) :
    (update ws id u s).2 = s := by
  cases hget : s.get ws id with
  | error e => simp only [update, hget]
  | ok old =>
    cases hc : (u.onto old).check with
    | error f => rw [update_of_error hget hc]
    | ok _ =>
      rw [Fails, update_of_ok hget hc] at h
      exact absurd h (by simp)

/-! ## Operations on many rows -/

theorem delete_of_fails (h : Fails (delete ws id) s) : (delete ws id s).2 = s := by
  unfold Fails delete at h
  unfold delete
  cases hr : s.find? ws id with
  | none => rfl
  | some r =>
    rw [hr] at h
    exact absurd h (by simp)

theorem reprioritize_of_fails {ps : List (Int × Int)} (h : Fails (reprioritize ws ps) s) :
    (reprioritize ws ps s).2 = s := by
  unfold Fails reprioritize at h
  unfold reprioritize
  cases hc : ps.forM fun p => checkPriority p.2 with
  | error f => rfl
  | ok _ =>
    simp only [hc] at h ⊢
    cases ha : assign ws ps s with
    | error e => rfl
    | ok s' =>
      rw [ha] at h
      exact absurd h (by simp)

/-! ## Counting a use -/

theorem used_read_fails_iff {r : Row} (now : Stamp) :
    (∃ e, (used now r).read = .error e) ↔ r.Spoils := by
  rw [exists_read_eq_error_iff, Row.Spoils]
  simp only [used, Numeral.succ_eq_float_iff, or_assoc]

theorem used_eq_self_iff {r : Row} {now : Stamp} :
    used now r = r ↔ r.usageCount = .float ∧ r.lastMatch = some now := by
  rw [← Numeral.succ_eq_self_iff, eq_comm (a := r.lastMatch)]
  obtain ⟨⟩ := r
  simp [used]

theorem recordMatch_of_none {now : Stamp} (h : s.find? ws id = none) :
    recordMatch ws id now s = (.error (.noRule id), s) := by
  rw [recordMatch, h]

theorem recordMatch_of_some {now : Stamp} {r : Row} (h : s.find? ws id = some r) :
    recordMatch ws id now s = ((used now r).read, s.modify ws id (used now) (used_id now)) := by
  rw [recordMatch, h]

theorem recordMatch_fails_and_changes_iff {now : Stamp} :
    Fails (recordMatch ws id now) s ∧ (recordMatch ws id now s).2 ≠ s ↔
      ∃ r ∈ s.rows, r.id = id ∧ r.workspace = ws ∧ r.Spoils ∧
        ¬ (r.usageCount = .float ∧ r.lastMatch = some now) := by
  cases h : s.find? ws id with
  | none =>
    rw [recordMatch_of_none h]
    refine ⟨fun hf => absurd rfl hf.2, ?_⟩
    rintro ⟨r, hr, hid, hws, -⟩
    rw [find?_eq_some_iff.mpr ⟨hr, hid, hws⟩] at h
    cases h
  | some r =>
    obtain ⟨hr, hid, hws⟩ := find?_eq_some_iff.mp h
    rw [Fails, recordMatch_of_some h, used_read_fails_iff, ne_eq, modify_eq_iff]
    constructor
    · rintro ⟨hspoils, hne⟩
      refine ⟨r, hr, hid, hws, hspoils, fun hsame => hne fun r' hr' hid' _ => ?_⟩
      rw [eq_of_id_eq hr' hr (hid'.trans hid.symm)]
      exact used_eq_self_iff.mpr hsame
    · rintro ⟨r', hr', hid', hws', hspoils, hne⟩
      rw [eq_of_id_eq hr' hr (hid'.trans hid.symm)] at hspoils hne
      exact ⟨hspoils, fun hall => hne (used_eq_self_iff.mp (hall r hr hid hws))⟩

/-! ## All calls -/

/-- **The call fails behind its write**: a new rule gets a priority behind the largest 64-bit number,
or the row of a rule that is used cannot be read afterwards. -/
def Call.Strands (ws : String) (s : Store) : Call → Prop
  | .create r => r.check = .ok () ∧ r.priority = none ∧
    (s.topPriority ws = .int Text.maxInt64 ∨ s.topPriority ws = .float)
  | .recordMatch id now => ∃ r ∈ s.rows, r.id = id ∧ r.workspace = ws ∧ r.Spoils ∧
    ¬ (r.usageCount = .float ∧ r.lastMatch = some now)
  | _ => False

/-- **A failed call leaves the table as it was**, unless it fails behind its write, and then it does
not. -/
theorem fails_and_changes_iff_strands (ws : String) (s : Store) (c : Call) :
    Fails (c.run ws) s ∧ (c.run ws s).2 ≠ s ↔ c.Strands ws s := by
  cases c with
  | create r =>
    rw [Call.run, fails_answering]
    exact create_fails_and_changes_iff
  | recordMatch id now =>
    rw [Call.run, fails_answering]
    exact recordMatch_fails_and_changes_iff
  | get id => exact ⟨fun h => h.2 rfl, False.elim⟩
  | list => exact ⟨fun h => h.2 rfl, False.elim⟩
  | listActive => exact ⟨fun h => h.2 rfl, False.elim⟩
  | evaluate t => exact ⟨fun h => h.2 rfl, False.elim⟩
  | update id u =>
    rw [Call.run, fails_answering]
    exact ⟨fun h => h.2 (update_of_fails h.1), False.elim⟩
  | setActive id active =>
    rw [Call.run, fails_answering]
    exact ⟨fun h => h.2 (update_of_fails h.1), False.elim⟩
  | delete id =>
    rw [Call.run, fails_answering]
    exact ⟨fun h => h.2 (delete_of_fails h.1), False.elim⟩
  | reprioritize ps =>
    rw [Call.run, fails_answering]
    exact ⟨fun h => h.2 (reprioritize_of_fails h.1), False.elim⟩

/-- A table with one rule, whose condition is of no kind. -/
def unknownKind : Store where
  rows := [⟨1, "acme", "rule", none, .int 1, true, "fuzzy", "rent", "auto_book", "4", .int 0, none⟩]
  keyed := by decide

example : (recordMatch "acme" 1 7 unknownKind).1 = .error (.unknownCondition "fuzzy") ∧
    (recordMatch "acme" 1 7 unknownKind).2.rows.map (·.usageCount) = [.int 1] := by decide

end Store

end PostingRules
