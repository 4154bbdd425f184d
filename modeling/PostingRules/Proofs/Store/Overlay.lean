import PostingRules.Proofs.Store.Failure

/-!
# A change lays its fields over a row

A rule is read, changed and written back with all its fields. What is in the table afterwards is the
row as it was stored, with the fields of the change in the place of its own.

* `Row.overlaid`: a row with the fields of a change laid over it;
* `RuleUpdate.followedBy`, `onto_followedBy`: two changes as one; `RuleUpdate.Disjoint`,
  `followedBy_comm`: changes that share no field;
* `overwrite_onto`: the fields that are not given are written back as they were;
* `update_eq_ok_iff`, `update_followedBy`: one change, and one behind another;
* **`update_overlay`**: a change is an overlay, and two of them are one.
-/

namespace PostingRules

theorem ConditionKind.name_of_ofName? {s : String} {k : ConditionKind} (h : ofName? s = some k) :
    k.name = s := by
  have := List.find?_some h
  exact eq_of_beq this

theorem ActionKind.name_of_ofName? {s : String} {k : ActionKind} (h : ofName? s = some k) :
    k.name = s := by
  have := List.find?_some h
  exact eq_of_beq this

/-- The row with the fields of a change in the place of its own. -/
def Row.overlaid (u : RuleUpdate) (r : Row) : Row :=
  { r with
    name := u.name.getD r.name
    description := u.description.getD r.description
    priority := (u.priority.map Numeral.int).getD r.priority
    active := u.active.getD r.active
    condition := (u.condition.map ConditionKind.name).getD r.condition
    value := u.value.getD r.value
    action := (u.action.map ActionKind.name).getD r.action
    target := u.target.getD r.target }

namespace RuleUpdate

/-- **Two changes as one**: the fields that the second gives, and those of the first where it gives
none. -/
def followedBy (u v : RuleUpdate) : RuleUpdate where
  name := v.name.or u.name
  description := v.description.or u.description
  priority := v.priority.or u.priority
  active := v.active.or u.active
  condition := v.condition.or u.condition
  value := v.value.or u.value
  action := v.action.or u.action
  target := v.target.or u.target

/-- No field is given by both changes. -/
structure Disjoint (u v : RuleUpdate) : Prop where
  name : u.name = none ∨ v.name = none
  description : u.description = none ∨ v.description = none
  priority : u.priority = none ∨ v.priority = none
  active : u.active = none ∨ v.active = none
  condition : u.condition = none ∨ v.condition = none
  value : u.value = none ∨ v.value = none
  action : u.action = none ∨ v.action = none
  target : u.target = none ∨ v.target = none

variable {u v : RuleUpdate}

theorem onto_followedBy (u v : RuleUpdate) (x : StoredRule) :
    (u.followedBy v).onto x = v.onto (u.onto x) := by
  simp only [followedBy, onto, Option.getD_or]

theorem onto_onto (u : RuleUpdate) (x : StoredRule) : u.onto (u.onto x) = u.onto x := by
  have hself : u.followedBy u = u := by simp only [followedBy, Option.or_self]
  rw [← onto_followedBy, hself]

theorem followedBy_comm (h : u.Disjoint v) : u.followedBy v = v.followedBy u := by
  have hor : ∀ {α : Type} {a b : Option α}, a = none ∨ b = none → b.or a = a.or b := by
    rintro α a b (rfl | rfl)
    · rw [Option.or_none, Option.none_or]
    · rw [Option.or_none, Option.none_or]
  simp only [followedBy, hor h.name, hor h.description, hor h.priority, hor h.active,
    hor h.condition, hor h.value, hor h.action, hor h.target]

end RuleUpdate

namespace Store

variable {s s' s'' : Store} {ws : String} {id : Int} {u v : RuleUpdate} {x y : StoredRule} {r : Row}

/-- Fields that are not given are written back as they were read, kinds by their stored names. -/
theorem overwrite_onto (h : r.Reads x) (u : RuleUpdate) :
    overwrite (u.onto x) r = r.overlaid u := by
  have hcondition := ConditionKind.name_of_ofName? h.condition
  have haction := ActionKind.name_of_ofName? h.action
  have hpriority : Numeral.int (u.priority.getD x.priority) =
      (u.priority.map Numeral.int).getD r.priority := by
    rw [h.priority, Option.getD_map]
  simp only [overwrite, Row.overlaid, RuleUpdate.onto, h.name, h.description, h.active, h.value,
    h.target, ← hcondition, ← haction, hpriority, Option.getD_map]

/-! ## Changing a row twice -/

theorem modify_modify {f g : Row → Row} (hf : ∀ r, (f r).id = r.id) (hg : ∀ r, (g r).id = r.id)
    (hws : ∀ r, (f r).workspace = r.workspace) (hgf : ∀ r, g (f r) = g r) :
    (s.modify ws id f hf).modify ws id g hg = s.modify ws id g hg := by
  apply Store.ext
  simp only [modify, mapRows, List.map_map]
  refine List.map_congr_left fun r _ => ?_
  have hrow : isRow ws id (f r) = isRow ws id r := by simp only [isRow, hf, hws]
  by_cases h : isRow ws id r = true
  · simp [h, hrow, hgf]
  · simp [h]

/-! ## Changes -/

/-- **A change succeeds** if the rule can be read and is as it must be with the new fields. -/
theorem update_eq_ok_iff : update ws id u s = (.ok x, s') ↔ ∃ old, s.get ws id = .ok old ∧
    x = u.onto old ∧ x.check = .ok () ∧ s' = s.modify ws id (overwrite x) (overwrite_id x) := by
  constructor
  · intro h
    cases hget : s.get ws id with
    | error e =>
      simp only [update, hget] at h
      cases h
    | ok old =>
      cases hcheck : (u.onto old).check with
      | error f =>
        rw [update_of_error hget hcheck] at h
        cases h
      | ok _ =>
        rw [update_of_ok hget hcheck] at h
        cases h
        exact ⟨old, rfl, rfl, hcheck, rfl⟩
  · rintro ⟨old, hget, rfl, hcheck, rfl⟩
    exact update_of_ok hget hcheck

theorem get_of_update (h : update ws id u s = (.ok x, s')) : s'.get ws id = .ok x := by
  obtain ⟨old, hget, rfl, hcheck, rfl⟩ := update_eq_ok_iff.mp h
  simpa only [update, hget, hcheck, Prod.mk.injEq, and_true] using h

theorem rows_of_update (h : update ws id u s = (.ok x, s')) : s'.rows =
    s.rows.map fun r => if r.id = id ∧ r.workspace = ws then r.overlaid u else r := by
  obtain ⟨old, hget, rfl, -, rfl⟩ := update_eq_ok_iff.mp h
  obtain ⟨row, hrow, hread⟩ := get_eq_ok_iff.mp hget
  obtain ⟨hmem, hid, -⟩ := find?_eq_some_iff.mp hrow
  refine List.map_congr_left fun r hr => ?_
  simp only [isRow_iff]
  split
  · next hkey =>
    -- no other row has the id
    obtain rfl := eq_of_id_eq hr hmem (hkey.1.trans hid.symm)
    exact overwrite_onto hread u
  · rfl

/-- **One change behind another** is one change. -/
theorem update_followedBy (h : update ws id u s = (.ok x, s'))
    (h' : update ws id v s' = (.ok y, s'')) : update ws id (u.followedBy v) s = (.ok y, s'') := by
  obtain ⟨x', hget', rfl, hcheck', rfl⟩ := update_eq_ok_iff.mp h'
  cases (get_of_update h).symm.trans hget'
  obtain ⟨old, hget, rfl, -, rfl⟩ := update_eq_ok_iff.mp h
  have honto := (RuleUpdate.onto_followedBy u v old).symm
  refine update_eq_ok_iff.mpr ⟨old, hget, honto, hcheck', ?_⟩
  exact modify_modify (overwrite_id _) (overwrite_id _) (overwrite_workspace _) fun r => rfl

theorem update_again (h : update ws id u s = (.ok x, s')) : update ws id u s' = (.ok x, s') := by
  have hget := get_of_update h
  obtain ⟨old, -, rfl, hcheck, rfl⟩ := update_eq_ok_iff.mp h
  refine update_eq_ok_iff.mpr ⟨_, hget, (u.onto_onto old).symm, hcheck, ?_⟩
  exact (modify_modify (overwrite_id _) (overwrite_id _) (overwrite_workspace _) fun r => rfl).symm

/-- **A change is an overlay.** If it succeeds, the fields that it gives stand in the row of the rule,
all other fields and rows are as they were, and the rule that is read afterwards is the answer; if it
fails, the table is as it was. Two changes of a rule, one behind the other, do what one change does
with the fields of the second and, where it gives none, of the first. So a change that is made again
changes nothing, and two changes without a common field may be made in either order. -/
theorem update_overlay (ws : String) (id : Int) (u v : RuleUpdate) (s : Store) :
    (∀ x s', update ws id u s = (.ok x, s') → s'.get ws id = .ok x ∧ s'.rows =
      s.rows.map fun r => if r.id = id ∧ r.workspace = ws then r.overlaid u else r) ∧
    (∀ e s', update ws id u s = (.error e, s') → s' = s) ∧
    (∀ x s' y s'', update ws id u s = (.ok x, s') → update ws id v s' = (.ok y, s'') →
      update ws id (u.followedBy v) s = (.ok y, s'')) ∧
    (∀ x s', update ws id u s = (.ok x, s') → update ws id u s' = (.ok x, s')) ∧
    (∀ x s₁ y s₂ y' s₁' x' s₂', u.Disjoint v →
      update ws id u s = (.ok x, s₁) → update ws id v s₁ = (.ok y, s₂) →
      update ws id v s = (.ok y', s₁') → update ws id u s₁' = (.ok x', s₂') →
      s₂' = s₂ ∧ x' = y) := by
  refine ⟨fun x s' h => ⟨get_of_update h, rows_of_update h⟩, fun e s' h => ?_,
    fun x s' y s'' h h' => update_followedBy h h', fun x s' h => update_again h, ?_⟩
  · have hfails : Fails (update ws id u) s := ⟨e, congrArg Prod.fst h⟩
    exact (congrArg Prod.snd h).symm.trans (update_of_fails hfails)
  · intro x s₁ y s₂ y' s₁' x' s₂' hdisjoint hu hv hv' hu'
    have hone := update_followedBy hu hv
    have hother := update_followedBy hv' hu'
    rw [RuleUpdate.followedBy_comm hdisjoint, hother] at hone
    cases hone
    exact ⟨rfl, rfl⟩

/-- A table with a rule of one workspace and one of another. -/
def describedRule : Store where
  rows := [⟨1, "acme", "rent", some "monthly", .int 3, true, "contains", "rent", "auto_book", "4",
      .int 2, some 7⟩,
    ⟨2, "other", "tax", none, .int 3, true, "contains", "tax", "auto_book", "6", .int 0, none⟩]
  keyed := by decide

/-- A change that clears the description and sets the priority. -/
def clearing : RuleUpdate := { description := some none, priority := some 9 }

/-- A change of the name. -/
def capitalizing : RuleUpdate := { name := some "Rent" }

theorem update_overlay_describedRule : ∃ x y z s₁ s₂ s₃,
    (update "acme" 1 clearing describedRule = (.ok x, s₁) ∧ s₁.get "acme" 1 = .ok x ∧
      s₁.rows.map (·.description) = [none, none] ∧ s₁.rows.map (·.priority) = [.int 9, .int 3] ∧
      s₁.rows.map (·.name) = ["rent", "tax"]) ∧
    update "acme" 1 { priority := some (-1) } describedRule =
      (.error (.field (.negativePriority (-1))), describedRule) ∧
    (update "acme" 1 capitalizing s₁ = (.ok y, s₂) ∧
      update "acme" 1 (clearing.followedBy capitalizing) describedRule = (.ok y, s₂)) ∧
    update "acme" 1 clearing s₁ = (.ok x, s₁) ∧
    (clearing.Disjoint capitalizing ∧ update "acme" 1 capitalizing describedRule = (.ok z, s₃) ∧
      update "acme" 1 clearing s₃ = (.ok y, s₂)) := by
  have hu : update "acme" 1 clearing describedRule =
      (.ok _, (update "acme" 1 clearing describedRule).2) := rfl
  have hv : update "acme" 1 capitalizing (update "acme" 1 clearing describedRule).2 =
      (.ok _, (update "acme" 1 capitalizing (update "acme" 1 clearing describedRule).2).2) := rfl
  have hv' : update "acme" 1 capitalizing describedRule =
      (.ok _, (update "acme" 1 capitalizing describedRule).2) := rfl
  have hu' : update "acme" 1 clearing (update "acme" 1 capitalizing describedRule).2 =
      (.ok _, (update "acme" 1 clearing (update "acme" 1 capitalizing describedRule).2).2) := rfl
  have hdisjoint : clearing.Disjoint capitalizing :=
    ⟨.inl rfl, .inr rfl, .inr rfl, .inl rfl, .inl rfl, .inl rfl, .inl rfl, .inl rfl⟩
  obtain ⟨hoverlay, hfails, htwice, hagain, hswap⟩ :=
    update_overlay "acme" 1 clearing capitalizing describedRule
  obtain ⟨hget, hrows⟩ := hoverlay _ _ hu
  obtain ⟨htable, hanswer⟩ := hswap _ _ _ _ _ _ _ _ hdisjoint hu hv hv' hu'
  have hrefused : (update "acme" 1 { priority := some (-1) } describedRule).2 = describedRule :=
    (update_overlay "acme" 1 { priority := some (-1) } capitalizing describedRule).2.1
      (.field (.negativePriority (-1))) _ rfl
  refine ⟨_, _, _, _, _, _, ⟨hu, hget, ?_, ?_, ?_⟩, ?_, ⟨hv, htwice _ _ _ _ hu hv⟩, hagain _ _ hu,
    hdisjoint, hv', ?_⟩
  · rw [hrows]
    rfl
  · rw [hrows]
    rfl
  · rw [hrows]
    rfl
  · exact Prod.ext rfl hrefused
  · rw [hu', htable, hanswer]

end Store

end PostingRules
