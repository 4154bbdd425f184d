import PostingRules.Proofs.Store.Assignment
import PostingRules.Proofs.Store.Failure

/-!
# What calls do to rows

* `Row.Becomes`: what becomes of a row in a call, and under which conditions;
* `Store.Call.Adds`: the row that a call adds to a table;
* `Store.Call.Changes`: every row of a table becomes something, and every row behind a call comes from
  one in front of it or is added;
* **`run_changes`**: every call changes a table in this way only.
-/

namespace PostingRules

/-- The call changes fields of the rule with the id. -/
def Store.Call.Updates (id : Int) : Store.Call → Prop
  | .update i _ => i = id
  | .setActive i _ => i = id
  | _ => False

/-- **What becomes of a row** in a call for the workspace `ws`: the row itself or another one in its
place, or none. -/
inductive Row.Becomes (ws : String) (c : Store.Call) (r : Row) : Option Row → Prop
  | kept (h : r.workspace = ws → ∀ now, c ≠ .recordMatch r.id now) : r.Becomes ws c (some r)
  | overwritten (hws : r.workspace = ws) (hc : c.Updates r.id) (new : StoredRule)
    (hnew : new.check = .ok ()) : r.Becomes ws c (some (Store.overwrite new r))
  | prioritized (hws : r.workspace = ws) (ps : List (Int × Int)) (hc : c = .reprioritize ps) (p : Int)
    (hp : 0 ≤ p) : r.Becomes ws c (some (Store.prioritized p r))
  | used (hws : r.workspace = ws) (now : Stamp) (hc : c = .recordMatch r.id now) :
    r.Becomes ws c (some (Store.used now r))
  | removed (hws : r.workspace = ws) (hc : c = .delete r.id) : r.Becomes ws c none

namespace Row.Becomes

variable {ws : String} {c : Store.Call} {r r' : Row}

theorem id_eq (h : r.Becomes ws c (some r')) : r'.id = r.id := by
  cases h <;> rfl

theorem workspace_eq (h : r.Becomes ws c (some r')) : r'.workspace = r.workspace := by
  cases h <;> rfl

/-- A row of another workspace is kept. -/
theorem eq_of_foreign {o : Option Row} (h : r.Becomes ws c o) (hws : r.workspace ≠ ws) :
    o = some r := by
  cases h with
  | kept _ => rfl
  | overwritten h' => exact absurd h' hws
  | prioritized h' => exact absurd h' hws
  | used h' => exact absurd h' hws
  | removed h' => exact absurd h' hws

end Row.Becomes

namespace Store

variable {ws : String} {c : Call} {s : Store}

/-- The row that a call adds to a table. -/
def Call.Adds (ws : String) (s : Store) (c : Call) (r : Row) : Prop :=
  ∃ new : NewRule, c = .create new ∧ new.check = .ok () ∧ r = s.newRow ws new

/-- **A call changes a table row by row**: each row in front of it becomes something, and each row
behind it comes from one in front of it or is added. -/
structure Call.Changes (ws : String) (c : Call) (s s' : Store) : Prop where
  becomes : ∀ r ∈ s.rows, r.Becomes ws c none ∨ ∃ r' ∈ s'.rows, r.Becomes ws c (some r')
  comes : ∀ r' ∈ s'.rows, (∃ r ∈ s.rows, r.Becomes ws c (some r')) ∨ c.Adds ws s r'

theorem Call.Changes.refl (h : ∀ id now, c ≠ .recordMatch id now) : c.Changes ws s s where
  becomes r hr := Or.inr ⟨r, hr, .kept fun _ => h r.id⟩
  comes r hr := Or.inl ⟨r, hr, .kept fun _ => h r.id⟩

theorem changes_mapRows {f : Row → Row} (hid : ∀ r, (f r).id = r.id)
    (h : ∀ r ∈ s.rows, r.Becomes ws c (some (f r))) : c.Changes ws s (s.mapRows f hid) where
  becomes r hr := Or.inr ⟨f r, List.mem_map_of_mem hr, h r hr⟩
  comes r' hr' := by
    obtain ⟨r, hr, rfl⟩ := List.mem_map.mp hr'
    exact Or.inl ⟨r, hr, h r hr⟩

theorem changes_modify {id : Int} {f : Row → Row} (hid : ∀ r, (f r).id = r.id)
    (h : ∀ r ∈ s.rows, r.id = id → r.workspace = ws → r.Becomes ws c (some (f r)))
    (hkept : ∀ r ∈ s.rows, ¬ (r.id = id ∧ r.workspace = ws) → r.Becomes ws c (some r)) :
    c.Changes ws s (s.modify ws id f hid) := by
  refine changes_mapRows _ fun r hr => ?_
  split
  · rename_i hrow
    exact h r hr (isRow_iff.mp hrow).1 (isRow_iff.mp hrow).2
  · rename_i hrow
    exact hkept r hr fun hrow' => hrow (isRow_iff.mpr hrow')

/-! ## Calls -/

theorem create_changes (new : NewRule) : (Call.create new).Changes ws s (create ws new s).2 := by
  cases h : new.check with
  | error f =>
    rw [create_of_error h]
    exact .refl nofun
  | ok _ =>
    rw [create_of_ok h]
    refine ⟨fun r hr => Or.inr ⟨r, List.mem_append_left _ hr, .kept fun _ => nofun⟩, fun r' hr' => ?_⟩
    rcases List.mem_append.mp hr' with hr | hnew
    · exact Or.inl ⟨r', hr, .kept fun _ => nofun⟩
    · exact Or.inr ⟨new, rfl, h, List.mem_singleton.mp hnew⟩

theorem update_changes {id : Int} {u : RuleUpdate} (hc : c.Updates id)
    (hkept : ∀ i now, c ≠ .recordMatch i now) : c.Changes ws s (update ws id u s).2 := by
  cases hget : s.get ws id with
  | error e =>
    simp only [update, hget]
    exact .refl hkept
  | ok old =>
    cases hcheck : (u.onto old).check with
    | error f =>
      rw [update_of_error hget hcheck]
      exact .refl hkept
    | ok _ =>
      rw [update_of_ok hget hcheck]
      refine changes_modify (overwrite_id _) (fun r _ hid hws => ?_) fun r _ _ => .kept fun _ => hkept r.id
      exact .overwritten hws (hid ▸ hc) _ hcheck

theorem delete_changes (id : Int) : (Call.delete id).Changes ws s (delete ws id s).2 := by
  cases h : s.find? ws id with
  | none =>
    simp only [delete, h]
    exact .refl nofun
  | some row =>
    simp only [delete, h]
    refine ⟨fun r hr => ?_, fun r' hr' => Or.inl ⟨r', (List.mem_filter.mp hr').1, .kept fun _ => nofun⟩⟩
    by_cases hrow : isRow ws id r
    · obtain ⟨rfl, hws⟩ := isRow_iff.mp hrow
      exact Or.inl (.removed hws rfl)
    · exact Or.inr ⟨r, List.mem_filter.mpr ⟨hr, by simpa using hrow⟩, .kept fun _ => nofun⟩

theorem assigned_becomes {ps : List (Int × Int)} (hps : ∀ p ∈ ps, 0 ≤ p.2) (r : Row) :
    r.Becomes ws (.reprioritize ps) (some (assigned ws ps r)) := by
  have hkept : ∀ now, Call.reprioritize ps ≠ .recordMatch r.id now := by
    rintro now ⟨⟩
  by_cases hws : r.workspace = ws
  · cases h : ps.reverse.lookup r.id with
    | none =>
      have hsame : assigned ws ps r = r := by simp [assigned, hws, h]
      rw [hsame]
      exact .kept fun _ => hkept
    | some p =>
      have hset : assigned ws ps r = prioritized p r := by simp [assigned, hws, h]
      obtain ⟨before, after, hsplit, -⟩ := List.lookup_eq_some_iff.mp h
      have hmem : (r.id, p) ∈ ps := List.mem_reverse.mp (by simp [hsplit])
      rw [hset]
      exact .prioritized hws ps rfl p (hps _ hmem)
  · have hsame : assigned ws ps r = r := by simp [assigned, hws]
    rw [hsame]
    exact .kept fun _ => hkept

theorem reprioritize_changes (ps : List (Int × Int)) :
    (Call.reprioritize ps).Changes ws s (reprioritize ws ps s).2 := by
  rcases valid_or_fails ws ps s with hvalid | hfails
  · rw [reprioritize_of_valid hvalid]
    exact changes_mapRows (assigned_id ws ps) fun r _ =>
      assigned_becomes (fun p hp => (hvalid p hp).1) r
  · rw [reprioritize_of_fails hfails]
    exact .refl nofun

theorem recordMatch_changes (id : Int) (now : Stamp) :
    (Call.recordMatch id now).Changes ws s (recordMatch ws id now s).2 := by
  cases h : s.find? ws id with
  | none =>
    -- no row has the id in the workspace, so each is kept
    have hkept : ∀ r ∈ s.rows, r.Becomes ws (.recordMatch id now) (some r) := fun r hr =>
      .kept fun hws now' e => find?_eq_none_iff.mp h ⟨r, hr, by cases e; rfl, hws⟩
    rw [recordMatch_of_none h]
    exact ⟨fun r hr => Or.inr ⟨r, hr, hkept r hr⟩, fun r hr => Or.inl ⟨r, hr, hkept r hr⟩⟩
  | some row =>
    rw [recordMatch_of_some h]
    refine changes_modify (used_id now) (fun r _ hid hws => .used hws now (by rw [hid]))
      fun r _ hrow => ?_
    exact .kept fun hws now' e => hrow ⟨by cases e; rfl, hws⟩

/-- **Every call changes the table row by row.** -/
theorem run_changes (ws : String) (c : Call) (s : Store) : c.Changes ws s (c.run ws s).2 := by
  cases c with
  | create new => exact create_changes new
  | get id => exact .refl nofun
  | list => exact .refl nofun
  | listActive => exact .refl nofun
  | evaluate t => exact .refl nofun
  | update id u => exact update_changes rfl nofun
  | setActive id active => exact update_changes rfl nofun
  | delete id => exact delete_changes id
  | reprioritize ps => exact reprioritize_changes ps
  | recordMatch id now => exact recordMatch_changes id now

end Store

end PostingRules
