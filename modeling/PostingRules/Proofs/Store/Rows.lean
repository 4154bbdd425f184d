import PostingRules.Store.Operations
import Mathlib.Data.List.Nodup

/-!
# Rows of a table

* `eq_of_id_eq`: the id determines the row;
* **`find?_eq_some_iff`**: the row that is found is the only one with the id in the workspace;
* `Has`, `has_iff_exists_find?`, `has_modify`: whether a rule is one of a workspace;
* `find?_append`, `find?_modify`: rows that are found behind a change;
* `append_ne`, `modify_eq_iff`: whether a change leaves the table as it is.
-/

namespace PostingRules.Store

variable {s : Store} {ws : String} {id : Int} {r : Row}

theorem isRow_iff : isRow ws id r = true ↔ r.id = id ∧ r.workspace = ws := by
  rw [isRow, Bool.and_eq_true, decide_eq_true_eq, decide_eq_true_eq]

theorem eq_of_id_eq {a b : Row} (ha : a ∈ s.rows) (hb : b ∈ s.rows) (h : a.id = b.id) : a = b :=
  List.inj_on_of_nodup_map s.keyed ha hb h

/-- **The row that is found** is the only one with the id in the workspace. -/
theorem find?_eq_some_iff : s.find? ws id = some r ↔ r ∈ s.rows ∧ r.id = id ∧ r.workspace = ws := by
  constructor
  · intro h
    exact ⟨List.mem_of_find?_eq_some h, isRow_iff.mp (List.find?_some h)⟩
  · rintro ⟨hr, hrow⟩
    cases h : s.find? ws id with
    | none => exact absurd (isRow_iff.mpr hrow) (List.find?_eq_none.mp h r hr)
    | some r' =>
      have hrow' := isRow_iff.mp (List.find?_some h)
      rw [eq_of_id_eq (List.mem_of_find?_eq_some h) hr (hrow'.1.trans hrow.1.symm)]

/-- The rule with the id is one of the workspace. -/
def Has (s : Store) (ws : String) (id : Int) : Prop := ∃ r ∈ s.rows, r.id = id ∧ r.workspace = ws

instance (s : Store) (ws : String) (id : Int) : Decidable (s.Has ws id) :=
  inferInstanceAs (Decidable (∃ r ∈ s.rows, r.id = id ∧ r.workspace = ws))

theorem has_iff_exists_find? : s.Has ws id ↔ ∃ r, s.find? ws id = some r :=
  exists_congr fun _ => find?_eq_some_iff.symm

theorem find?_eq_none_iff : s.find? ws id = none ↔ ¬ s.Has ws id := by
  rw [← not_iff_not, not_not, ← ne_eq, Option.ne_none_iff_exists', has_iff_exists_find?]

/-! ## Changes -/

theorem has_modify {f : Row → Row} (hid : ∀ r, (f r).id = r.id)
    (hws : ∀ r, (f r).workspace = r.workspace) (ws' : String) (id' : Int) :
    (s.modify ws' id' f hid).Has ws id ↔ s.Has ws id := by
  have hkey : ∀ r, (if isRow ws' id' r then f r else r).id = r.id ∧
      (if isRow ws' id' r then f r else r).workspace = r.workspace := fun r => by
    split
    · exact ⟨hid r, hws r⟩
    · exact ⟨rfl, rfl⟩
  constructor
  · rintro ⟨_, hmem, hrow⟩
    obtain ⟨r, hr, rfl⟩ := List.mem_map.mp hmem
    rw [(hkey r).1, (hkey r).2] at hrow
    exact ⟨r, hr, hrow⟩
  · rintro ⟨r, hr, hrow⟩
    refine ⟨_, List.mem_map_of_mem hr, ?_⟩
    rw [(hkey r).1, (hkey r).2]
    exact hrow

theorem find?_append (h : r.id ∉ s.rows.map (·.id)) :
    (s.append r h).find? r.workspace r.id = some r :=
  find?_eq_some_iff.mpr ⟨List.mem_append_right _ (List.mem_singleton.mpr rfl), rfl, rfl⟩

theorem append_ne (h : r.id ∉ s.rows.map (·.id)) : s.append r h ≠ s := by
  intro e
  have := congrArg (·.rows.length) e
  simp [append] at this

theorem find?_modify {f : Row → Row} (hid : ∀ r, (f r).id = r.id)
    (hws : ∀ r, (f r).workspace = r.workspace) :
    (s.modify ws id f hid).find? ws id = (s.find? ws id).map f := by
  cases h : s.find? ws id with
  | none =>
    refine List.find?_eq_none.mpr fun r' hr' => ?_
    obtain ⟨r, hr, rfl⟩ := List.mem_map.mp hr'
    have hrow := List.find?_eq_none.mp h r hr
    rw [if_neg hrow]
    exact hrow
  | some r =>
    obtain ⟨hr, hrow⟩ := find?_eq_some_iff.mp h
    rw [Option.map_some, find?_eq_some_iff, hid, hws]
    exact ⟨List.mem_map.mpr ⟨r, hr, if_pos (isRow_iff.mpr hrow)⟩, hrow⟩

theorem modify_eq_iff {f : Row → Row} (hid : ∀ r, (f r).id = r.id) :
    s.modify ws id f hid = s ↔ ∀ r ∈ s.rows, r.id = id → r.workspace = ws → f r = r := by
  rw [Store.ext_iff, modify, mapRows]
  conv_lhs => rhs; rw [← List.map_id s.rows]
  rw [List.map_inj_left]
  refine forall₂_congr fun r _ => ?_
  rw [← and_imp, ← isRow_iff]
  split
  · rename_i h
    simp [h]
  · rename_i h
    simp [h]

end PostingRules.Store
