import PostingRules.Store.Basic

/-!
# Writes by other programs

The table is a file that other programs can write to, without the checks of this one.

* `ForeignCell`: a column and what is written there;
* `foreignWrite`: one cell of a row of any workspace.
-/

namespace PostingRules.Store

/-- A column and what is written there. -/
inductive ForeignCell
  | condition (name : String)
  | action (name : String)
  | workspace (name : String)
  | usageCount (n : Int)
  | priority (p : Int)
  deriving DecidableEq, Repr

/-- A row with a cell written over. -/
def ForeignCell.onto (c : ForeignCell) (r : Row) : Row :=
  match c with
  | .condition v => { r with condition := v }
  | .action v => { r with action := v }
  | .workspace v => { r with workspace := v }
  | .usageCount n => { r with usageCount := .int n }
  | .priority p => { r with priority := .int p }

theorem ForeignCell.onto_id (c : ForeignCell) (r : Row) : (c.onto r).id = r.id := by
  cases c <;> rfl

/-- The table with a cell of the row with an id written over. -/
def overwritten (s : Store) (id : Int) (c : ForeignCell) : Store :=
  s.mapRows (fun r => if r.id = id then c.onto r else r) fun r => by
    split
    · exact c.onto_id r
    · rfl

/-- Write one cell of the row with an id, and answer how many rows were written. The table itself
refuses a negative priority. -/
def foreignWrite (id : Int) (c : ForeignCell) (s : Store) : Except StoreFault Nat × Store :=
  let n := (s.rows.filter (·.id = id)).length
  match c with
  | .priority p =>
    if n ≠ 0 ∧ p < 0 then (.error .refusedPriority, s)
    else (.ok n, s.overwritten id c)
  | _ => (.ok n, s.overwritten id c)

end PostingRules.Store
