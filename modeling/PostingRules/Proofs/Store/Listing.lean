import PostingRules.Store.Operations
import PostingRules.Proofs.Except
import PostingRules.Proofs.StableSort
import PostingRules.Proofs.Store.Reading
import Mathlib.Data.Int.ConditionallyCompleteOrder
import Mathlib.Data.Prod.Lex
import Mathlib.Order.ConditionallyCompleteLattice.Basic

/-!
# Listing rules

* `Row.place`: the place of a row in a listing, its priority and then its id;
* `listing`, `listing_pairwise`, `listing_eq_of_pairwise`: the rows of a workspace, each below the one
  before it;
* **`list_eq_ok_iff`**: a workspace can be listed if all its rows are integral, and the list holds the
  rules of its listing;
* **`pairwise_of_list`**: the rules of a list descend by priority and ascend by id.
-/

namespace PostingRules

/-! ## Listings -/

/-- A stored number among the integers and one above them all. -/
def Numeral.key : Numeral → WithTop Int
  | int n => n
  | float => ⊤

theorem Numeral.le_iff {a b : Numeral} : a.le b = true ↔ a.key ≤ b.key := by
  cases a <;> cases b <;> simp [le, key]

theorem Numeral.key_inj {a b : Numeral} : a.key = b.key ↔ a = b := by
  cases a <;> cases b <;> simp [key]

/-- The place of a row in a listing: a higher priority is above, then a lower id. -/
def Row.place (r : Row) : WithTop Int ×ₗ Intᵒᵈ := toLex (r.priority.key, OrderDual.toDual r.id)

theorem place_lt_iff {a b : Row} : b.place < a.place ↔
    b.priority.key < a.priority.key ∨ a.priority = b.priority ∧ a.id < b.id := by
  rw [Row.place, Row.place, Prod.Lex.toLex_lt_toLex, Numeral.key_inj, OrderDual.toDual_lt_toDual,
    eq_comm (a := b.priority)]

theorem place_le_iff {a b : Row} : b.place ≤ a.place ↔
    b.priority.key < a.priority.key ∨ a.priority = b.priority ∧ a.id ≤ b.id := by
  rw [Row.place, Row.place, Prod.Lex.toLex_le_toLex, Numeral.key_inj, OrderDual.toDual_le_toDual,
    eq_comm (a := b.priority)]

namespace Store

theorem listedBefore_iff (a b : Row) : listedBefore a b = true ↔ b.place ≤ a.place := by
  rw [place_le_iff, listedBefore]
  split
  · rename_i h
    simp [h]
  · rename_i h
    rw [Numeral.le_iff, le_iff_lt_or_eq, Numeral.key_inj, eq_comm (a := b.priority)]
    simp [h]

/-- The rows of a workspace in the order of their places. -/
def listing (s : Store) (ws : String) : List Row := (s.inWorkspace ws).mergeSort listedBefore

theorem listing_isStableSort (s : Store) (ws : String) :
    IsStableSort Row.place (s.inWorkspace ws) (s.listing ws) :=
  isStableSort_mergeSort listedBefore_iff _

theorem mem_inWorkspace {s : Store} {ws : String} {r : Row} :
    r ∈ s.inWorkspace ws ↔ r ∈ s.rows ∧ r.workspace = ws := by
  rw [inWorkspace, List.mem_filter, decide_eq_true_eq]

theorem mem_listing {s : Store} {ws : String} {r : Row} :
    r ∈ s.listing ws ↔ r ∈ s.rows ∧ r.workspace = ws := by
  rw [(listing_isStableSort s ws).perm.mem_iff, mem_inWorkspace]

theorem pairwise_id_ne (s : Store) (ws : String) :
    (s.inWorkspace ws).Pairwise fun a b => a.id ≠ b.id :=
  (List.pairwise_map.mp s.keyed).filter _

/-- **A row of a listing** is below the rows before it. -/
theorem listing_pairwise (s : Store) (ws : String) :
    (s.listing ws).Pairwise fun a b => b.place < a.place := by
  have h := listing_isStableSort s ws
  have hne : (s.listing ws).Pairwise fun a b => a.id ≠ b.id :=
    h.perm.symm.pairwise (pairwise_id_ne s ws) fun hab => Ne.symm hab
  refine (h.descending.and hne).imp fun ⟨hle, hid⟩ => ?_
  rw [place_le_iff] at hle
  rw [place_lt_iff]
  exact hle.imp_right fun ⟨hp, hi⟩ => ⟨hp, lt_of_le_of_ne hi hid⟩

/-- **The listing is the only list** of the rows of a workspace in which each is below the one before
it. -/
theorem listing_eq_of_pairwise {s : Store} {ws : String} {l : List Row}
    (hmem : ∀ r, r ∈ l ↔ r ∈ s.rows ∧ r.workspace = ws)
    (hp : l.Pairwise fun a b => b.place < a.place) : s.listing ws = l := by
  have hnodup : ∀ {l : List Row}, (l.Pairwise fun a b => b.place < a.place) → l.Nodup := fun h =>
    h.imp fun hlt e => absurd (e ▸ hlt) (lt_irrefl _)
  have hperm : (s.listing ws).Perm l := by
    rw [List.perm_ext_iff_of_nodup (hnodup (listing_pairwise s ws)) (hnodup hp)]
    intro r
    rw [mem_listing, hmem]
  exact hperm.eq_of_pairwise (fun a b _ _ hab hba => absurd hab hba.asymm)
    (listing_pairwise s ws) hp

/-! ## Lists of rules -/

theorem exists_mapM_cells {l : List Row} (h : ∀ r ∈ l, r.Integral) :
    ∃ cs, l.mapM Row.cells = .ok cs := by
  induction l with
  | nil => exact ⟨[], rfl⟩
  | cons r l ih =>
    rw [List.forall_mem_cons] at h
    obtain ⟨p, n, hp, hn⟩ := Row.integral_iff.mp h.1
    obtain ⟨cs, hcs⟩ := ih h.2
    refine ⟨⟨r, p, n⟩ :: cs, mapM_eq_ok_iff.mpr (.cons ?_ (mapM_eq_ok_iff.mp hcs))⟩
    exact cells_eq_ok_iff.mpr ⟨rfl, hp, hn⟩

theorem integral_of_mapM_cells {l : List Row} {cs : List Cells} (h : l.mapM Row.cells = .ok cs) :
    ∀ r ∈ l, r.Integral := by
  have h' := mapM_eq_ok_iff.mp h
  clear h
  induction h' with
  | nil => exact fun _ hr => absurd hr List.not_mem_nil
  | cons hc _ ih =>
    obtain ⟨-, hp, hn⟩ := cells_eq_ok_iff.mp hc
    exact List.forall_mem_cons.mpr ⟨Row.integral_iff.mpr ⟨_, _, hp, hn⟩, ih⟩

theorem filterMap_rule_of_mapM_cells {l : List Row} {cs : List Cells}
    (h : l.mapM Row.cells = .ok cs) :
    cs.filterMap (fun c => c.rule.toOption) = l.filterMap Row.rule? := by
  have h' := mapM_eq_ok_iff.mp h
  clear h
  induction h' with
  | nil => rfl
  | @cons r c _ _ hc _ ih =>
    have hrule : c.rule.toOption = r.rule? := by rw [Row.rule?, Row.read, hc]; rfl
    rw [List.filterMap_cons, List.filterMap_cons, hrule, ih]

theorem list_eq (s : Store) (ws : String) : s.list ws = ((s.listing ws).mapM Row.cells).map fun cs =>
    cs.filterMap fun c => c.rule.toOption := rfl

/-- **A workspace can be listed** if all its rows are integral, and the list holds the rules of the
rows that can be read, in the order of the listing. -/
theorem list_eq_ok_iff {s : Store} {ws : String} {rs : List StoredRule} : s.list ws = .ok rs ↔
    (∀ r ∈ s.rows, r.workspace = ws → r.Integral) ∧ rs = (s.listing ws).filterMap Row.rule? := by
  constructor
  · intro h
    rw [list_eq] at h
    cases hm : (s.listing ws).mapM Row.cells with
    | error e => rw [hm] at h; cases h
    | ok cs =>
      rw [hm] at h
      cases h
      exact ⟨fun r hr hws => integral_of_mapM_cells hm r (mem_listing.mpr ⟨hr, hws⟩),
        filterMap_rule_of_mapM_cells hm⟩
  · rintro ⟨hall, rfl⟩
    obtain ⟨cs, hm⟩ := exists_mapM_cells fun r hr =>
      hall r (mem_listing.mp hr).1 (mem_listing.mp hr).2
    rw [list_eq, hm, ← filterMap_rule_of_mapM_cells hm]
    rfl

/-- **The rules of a list** descend by priority, and those of one priority ascend by id. -/
theorem pairwise_of_list {s : Store} {ws : String} {rs : List StoredRule}
    (h : s.list ws = .ok rs) : rs.Pairwise fun x y =>
      y.priority < x.priority ∨ x.priority = y.priority ∧ x.id < y.id := by
  obtain ⟨-, rfl⟩ := list_eq_ok_iff.mp h
  rw [List.pairwise_filterMap]
  refine (listing_pairwise s ws).imp fun hlt x hx y hy => ?_
  have hx := rule?_eq_some_iff.mp hx
  have hy := rule?_eq_some_iff.mp hy
  rw [place_lt_iff, hx.priority, hy.priority, hx.id, hy.id] at hlt
  simpa [Numeral.key] using hlt

end Store

end PostingRules
