import PostingRules.Proofs.Store.Coherence
import PostingRules.Proofs.Store.NewRow
import PostingRules.Proofs.Store.Overlay

/-!
# Switching a rule off and on

* `switched`, `setActive_of_get`: switching a rule changes one column of its row;
* `setActive_setActive`: switching it back restores the table;
* `listing_mapRows`: rows that are changed in their places;
* `Row.activeRule?`, `listActive_eq_ok_iff`: a workspace as matching sees it;
* **`listActive_modify_switched`**: a rule that is switched off is as good as removed;
* **`evaluate_setActive`**: so it is in every evaluation.
-/

namespace PostingRules

/-- The rule of a row, if it can be read and is active. -/
def Row.activeRule? (r : Row) : Option StoredRule := r.rule?.filter (·.active)

theorem Row.activeRule?_eq_none {r : Row} (h : r.active = false) : r.activeRule? = none := by
  unfold Row.activeRule?
  cases hx : r.rule? with
  | none => rfl
  | some x =>
    have hactive : x.active = false := (rule?_eq_some_iff.mp hx).active.symm.trans h
    exact if_neg (by simp [hactive])

namespace Store

variable {s : Store} {ws : String} {id : Int} {x : StoredRule} {rs : List StoredRule}

/-! ## Switching -/

/-- The row switched on or off. -/
def switched (active : Bool) (r : Row) : Row := { r with active := active }

theorem switched_id (active : Bool) (r : Row) : (switched active r).id = r.id := rfl

theorem modify_congr {f g : Row → Row} (hf : ∀ r, (f r).id = r.id) (hg : ∀ r, (g r).id = r.id)
    (h : ∀ r ∈ s.rows, r.id = id → r.workspace = ws → f r = g r) :
    s.modify ws id f hf = s.modify ws id g hg := by
  refine Store.ext (List.map_congr_left fun r hr => ?_)
  split
  · next hrow => exact h r hr (isRow_iff.mp hrow).1 (isRow_iff.mp hrow).2
  · rfl

/-- **Switching a rule** changes one column of its row. -/
theorem setActive_of_get (hx : s.get ws id = .ok x) (hcheck : x.check = .ok ()) (active : Bool) :
    setActive ws id active s =
      (.ok { x with active := active }, s.modify ws id (switched active) (switched_id active)) := by
  obtain ⟨row, hrow, hread⟩ := get_eq_ok_iff.mp hx
  obtain ⟨hmem, hid, -⟩ := find?_eq_some_iff.mp hrow
  have hupdate := update_of_ok (u := { active := some active }) hx hcheck
  rw [setActive, hupdate]
  refine congrArg _ (modify_congr _ _ fun r hr hid' _ => ?_)
  obtain rfl := eq_of_id_eq hr hmem (hid'.trans hid.symm)
  exact overwrite_onto hread _

/-- **Switching a rule back** restores the table. -/
theorem setActive_setActive {y : StoredRule} {s' : Store} (hx : s.get ws id = .ok x)
    (hcheck : x.check = .ok ()) {active : Bool} (h : setActive ws id active s = (.ok y, s')) :
    setActive ws id x.active s' = (.ok x, s) := by
  have hget := get_of_update h
  rw [setActive_of_get hx hcheck active] at h
  cases h
  rw [setActive_of_get hget hcheck,
    modify_modify (switched_id _) (switched_id _) (fun _ => rfl) fun _ => rfl,
    (modify_eq_iff (switched_id _)).mpr]
  obtain ⟨row, hrow, hread⟩ := get_eq_ok_iff.mp hx
  obtain ⟨hmem, hid, -⟩ := find?_eq_some_iff.mp hrow
  intro r hr hid' _
  obtain rfl := eq_of_id_eq hr hmem (hid'.trans hid.symm)
  rw [switched, ← hread.active]

/-! ## Active rules -/

/-- Rows that keep their places are listed where they were. -/
theorem listing_mapRows {f : Row → Row} (hid : ∀ r, (f r).id = r.id)
    (hws : ∀ r, (f r).workspace = r.workspace) (hplace : ∀ r, (f r).place = r.place) :
    (s.mapRows f hid).listing ws = (s.listing ws).map f := by
  refine listing_eq_of_pairwise (fun r => ?_) ?_
  · simp only [mapRows, List.mem_map, mem_listing]
    constructor
    · rintro ⟨r, ⟨hr, hw⟩, rfl⟩
      exact ⟨⟨r, hr, rfl⟩, (hws r).trans hw⟩
    · rintro ⟨⟨r, hr, rfl⟩, hw⟩
      exact ⟨r, ⟨hr, (hws r).symm.trans hw⟩, rfl⟩
  · rw [List.pairwise_map]
    simp only [hplace]
    exact listing_pairwise s ws

/-- A row that is changed in its place keeps what the change keeps. -/
theorem ite_isRow_eq {α : Sort*} (f : Row → Row) (g : Row → α) (h : ∀ r, g (f r) = g r) (r : Row) :
    g (if isRow ws id r then f r else r) = g r := by
  split
  · exact h r
  · rfl

/-- **The active rules of a workspace** are those of its rows that can be read and are active. -/
theorem listActive_eq_ok_iff : s.listActive ws = .ok rs ↔
    (∀ r ∈ s.rows, r.workspace = ws → r.Integral) ∧
      rs = (s.listing ws).filterMap Row.activeRule? := by
  rw [listActive, map_eq_ok_iff]
  simp only [list_eq_ok_iff]
  constructor
  · rintro ⟨_, ⟨hint, rfl⟩, rfl⟩
    exact ⟨hint, List.filter_filterMap⟩
  · rintro ⟨hint, rfl⟩
    exact ⟨_, ⟨hint, rfl⟩, List.filter_filterMap⟩

/-- **A rule that is switched off** is as good as removed. -/
theorem listActive_modify_switched (hint : ∀ r ∈ s.rows, r.workspace = ws → r.Integral) (id : Int) :
    ∃ rs, (s.modify ws id (switched false) (switched_id false)).listActive ws = .ok rs ∧
      (s.erase ws id).listActive ws = .ok rs := by
  have hoff : (s.modify ws id (switched false) (switched_id false)).listing ws =
      (s.listing ws).map fun r => if isRow ws id r then switched false r else r :=
    listing_mapRows _ (ite_isRow_eq (switched false) (·.workspace) fun _ => rfl)
      (ite_isRow_eq (switched false) Row.place fun _ => rfl)
  have hgone : (s.erase ws id).listing ws = (s.listing ws).filter (!isRow ws id ·) :=
    listing_keepingRows s _ ws
  refine ⟨_, listActive_eq_ok_iff.mpr ⟨fun r hr hws => ?_, rfl⟩,
    listActive_eq_ok_iff.mpr ⟨fun r hr hws => hint r (List.mem_filter.mp hr).1 hws, ?_⟩⟩
  · obtain ⟨r₀, hr₀, rfl⟩ := List.mem_map.mp hr
    rw [ite_isRow_eq (switched false) (·.workspace) fun _ => rfl] at hws
    rw [ite_isRow_eq (switched false) Row.Integral fun _ => rfl]
    exact hint r₀ hr₀ hws
  · rw [hoff, hgone, List.filterMap_map, List.filterMap_filter]
    refine List.filterMap_congr fun r _ => ?_
    rw [Function.comp_apply]
    by_cases hrow : isRow ws id r = true
    · simp [hrow, Row.activeRule?_eq_none (r := switched false r) rfl]
    · simp [hrow]

theorem evaluate_of_listActive (h : s.listActive ws = .ok rs) (t : Transaction) :
    s.evaluate ws t = .ok (evaluations (rs.map (·.toRule)) t) := by
  rw [evaluate, h]
  rfl

/-- **A rule that is switched off matches as if it were removed**, and one that is switched on again
as if it had never been off. In a workspace whose numbers are integers, an active rule that can be read
and has valid fields can be switched off, and it can be removed. Both leave the same evaluations of
every transaction. Switched on again it is as before, and so is the whole table, so that every
transaction is evaluated as before. -/
theorem evaluate_setActive (hint : ∀ r ∈ s.rows, r.workspace = ws → r.Integral)
    (hx : s.get ws id = .ok x) (hactive : x.active = true)
    (hfields : FieldsValid x.name x.description x.value x.target) (hpriority : 0 ≤ x.priority) :
    ∃ off gone, setActive ws id false s = (.ok { x with active := false }, off) ∧
      delete ws id s = (.ok (), gone) ∧
      (∀ t, ∃ es, off.evaluate ws t = .ok es ∧ gone.evaluate ws t = .ok es) ∧
      setActive ws id true off = (.ok x, s) ∧ ∀ t, ∃ es, s.evaluate ws t = .ok es := by
  have hcheck : x.check = .ok () := StoredRule.check_eq_ok_iff.mpr ⟨hfields, hpriority⟩
  have hoff := setActive_of_get hx hcheck false
  have hback := setActive_setActive hx hcheck hoff
  rw [hactive] at hback
  obtain ⟨row, hrow, -⟩ := get_eq_ok_iff.mp hx
  obtain ⟨rs, hrs, hrs'⟩ := listActive_modify_switched hint id
  refine ⟨_, s.erase ws id, hoff, ?_, fun t => ?_, hback, fun t => ?_⟩
  · rw [delete, hrow]
  · exact ⟨_, evaluate_of_listActive hrs t, evaluate_of_listActive hrs' t⟩
  · exact ⟨_, evaluate_of_list (list_eq_ok_iff.mpr ⟨hint, rfl⟩) t⟩

/-- The fourth rule of `mixedRows`. -/
def feeRule : StoredRule where
  id := 4
  name := "rule"
  priority := 5
  active := true
  condition := .contains
  value := "fee"
  action := .autoBook
  target := "4"
  workspace := "acme"
  description := none
  usageCount := 0
  lastMatch := none

/-- The rule has the highest priority of the active ones that can be read, so without it the others
have other confidences. -/
theorem evaluate_setActive_mixedRows :
    (∀ r ∈ mixedRows.rows, r.workspace = "acme" → r.Integral) ∧
      mixedRows.get "acme" 4 = .ok feeRule ∧ feeRule.active = true ∧
      FieldsValid feeRule.name feeRule.description feeRule.value feeRule.target ∧
      0 ≤ feeRule.priority ∧
      ∃ off gone, setActive "acme" 4 false mixedRows = (.ok { feeRule with active := false }, off) ∧
        delete "acme" 4 mixedRows = (.ok (), gone) ∧ off ≠ gone ∧
        (∀ t, off.evaluate "acme" t = gone.evaluate "acme" t) ∧
        setActive "acme" 4 true off = (.ok feeRule, mixedRows) := by
  have hint : ∀ r ∈ mixedRows.rows, r.workspace = "acme" → r.Integral := by decide
  have hx : mixedRows.get "acme" 4 = .ok feeRule := rfl
  have hfields := checkFields_eq_ok_iff.mp (by decide :
    checkFields feeRule.name feeRule.description feeRule.value feeRule.target = .ok ())
  obtain ⟨off, gone, hoff, hgone, hsame, hback, -⟩ :=
    evaluate_setActive hint hx rfl hfields (by decide)
  have hsix : (setActive "acme" 4 false mixedRows).2.rows.length = 6 := by decide
  have hfive : (delete "acme" 4 mixedRows).2.rows.length = 5 := by decide
  rw [hoff] at hsix
  rw [hgone] at hfive
  refine ⟨hint, hx, rfl, hfields, by decide, off, gone, hoff, hgone, ?_, fun t => ?_, hback⟩
  · rintro rfl
    exact absurd (hsix.symm.trans hfive) (by decide)
  · obtain ⟨es, hes, hes'⟩ := hsame t
    exact hes.trans hes'.symm

end Store

end PostingRules
