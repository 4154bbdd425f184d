import PostingRules.Rule.Suggestions

/-!
# Stored rules

Rules of many workspaces lie in one table. A row keeps the names of its kinds as texts, which need
not be names of kinds, and numbers that have left the 64-bit range as floating point, which cannot
be read back.

* `Numeral`, `Numeral.succ`: a stored number;
* `Stamp`: a point in time;
* `Row`: a row of the table; `StoredRule`: a rule with all its columns;
* `Fault`: why an operation on the table fails;
* `Row.cells`, `Row.read`: the columns of a row as they are read, and the rule of a row;
* `Store`, `Store.inWorkspace`, `Store.find?`, `Store.nextPriority`;
* `Store.nextId`: the id of a new row, which no row has and which is above all others where it can be;
* `Store.append`, `Store.mapRows`, `Store.modify`, `Store.erase`: changes that keep ids apart.
-/

namespace PostingRules

open PostingRules.Text

/-- A stored number: an integer, or the floating point number that follows the largest one. -/
inductive Numeral
  | int (n : Int)
  | float
  deriving DecidableEq, Repr

namespace Numeral

/-- The number that follows. -/
def succ : Numeral → Numeral
  | int n => if n = maxInt64 then float else int (n + 1)
  | float => float

/-- The order of stored numbers. -/
def le : Numeral → Numeral → Bool
  | int a, int b => a ≤ b
  | _, float => true
  | float, int _ => false

/-- The larger of two stored numbers. -/
def max (a b : Numeral) : Numeral := if a.le b then b else a

end Numeral

/-- A point in time, in seconds since the start of 1970. -/
abbrev Stamp := Nat

/-- A row of the table. The times at which it was made and last changed are left out, since nothing reads
them. So are cells that no call writes: texts and fractions in a column of numbers, and whatever else does
not convert to the type of its column. -/
structure Row where
  id : Int
  workspace : String
  name : String
  description : Option String
  priority : Numeral
  active : Bool
  condition : String
  value : String
  action : String
  target : String
  usageCount : Numeral
  lastMatch : Option Stamp
  deriving DecidableEq, Repr

/-- A rule with all columns of its row. -/
structure StoredRule extends Rule where
  workspace : String
  description : Option String
  usageCount : Int
  lastMatch : Option Stamp
  deriving DecidableEq, Repr

/-- The columns that hold numbers. -/
inductive NumberColumn
  | priority
  | usageCount
  deriving DecidableEq, Repr

/-- What is wrong with the fields of a rule. -/
inductive FieldFault
  | name
  | description
  | emptyValue
  | emptyTarget
  | negativePriority (p : Int)
  deriving DecidableEq, Repr

/-- Why an operation on the table fails. -/
inductive StoreFault
  | noRule (id : Int)
  | field (f : FieldFault)
  | unknownCondition (name : String)
  | unknownAction (name : String)
  | notAnInteger (c : NumberColumn)
  | refusedPriority
  deriving DecidableEq, Repr

/-! ## Reading rows -/

/-- A row whose numbers are integers. -/
structure Cells where
  row : Row
  priority : Int
  usageCount : Int
  deriving DecidableEq, Repr

/-- The columns of a row, if its numbers are integers. -/
def Row.cells (r : Row) : Except StoreFault Cells :=
  match r.priority, r.usageCount with
  | .int p, .int n => .ok ⟨r, p, n⟩
  | .float, _ => .error (.notAnInteger .priority)
  | _, .float => .error (.notAnInteger .usageCount)

/-- The rule of a row whose numbers are integers, if it names kinds. -/
def Cells.rule (c : Cells) : Except StoreFault StoredRule :=
  match ConditionKind.ofName? c.row.condition, ActionKind.ofName? c.row.action with
  | some condition, some action =>
    .ok { id := c.row.id
          name := c.row.name
          priority := c.priority
          active := c.row.active
          condition := condition
          value := c.row.value
          action := action
          target := c.row.target
          workspace := c.row.workspace
          description := c.row.description
          usageCount := c.usageCount
          lastMatch := c.row.lastMatch }
  | none, _ => .error (.unknownCondition c.row.condition)
  | _, none => .error (.unknownAction c.row.action)

/-- The rule of a row. -/
def Row.read (r : Row) : Except StoreFault StoredRule := r.cells.bind Cells.rule

/-! ## The table -/

/-- The table of rules. No two rows have the same id. -/
@[ext]
structure Store where
  rows : List Row := []
  keyed : (rows.map (·.id)).Nodup := by exact List.nodup_nil
  deriving DecidableEq, Repr

namespace Store

/-- The rows of a workspace. -/
def inWorkspace (s : Store) (ws : String) : List Row := s.rows.filter (·.workspace = ws)

/-- Is it the row of this rule in this workspace? -/
def isRow (ws : String) (id : Int) (r : Row) : Bool := r.id = id && r.workspace = ws

/-- The row of a rule in a workspace. -/
def find? (s : Store) (ws : String) (id : Int) : Option Row := s.rows.find? (isRow ws id)

/-- The first id that is not in use, from `n` on. -/
def freeFrom (ids : List Int) (n : Int) : Int :=
  if n ∈ ids then freeFrom (ids.erase n) (n + 1) else n
termination_by ids.length
decreasing_by
  have := List.length_pos_of_mem ‹n ∈ ids›
  rw [List.length_erase_of_mem ‹n ∈ ids›]
  omega

/-- The id of the next rule: one more than the largest of the table, as long as that is in the 64-bit
range. Behind the largest number of the range the database draws positive ids until it meets one that
is not in use. Which one that is it leaves open; here it is the first. -/
def nextId (s : Store) : Int :=
  match (s.rows.map (·.id)).max? with
  | none => 1
  | some n => if n < (maxInt64 : Int) then n + 1 else freeFrom (s.rows.map (·.id)) 1

/-- The highest priority of a workspace, and 0 if it has no rule. -/
def topPriority (s : Store) (ws : String) : Numeral :=
  match (s.inWorkspace ws).map (·.priority) with
  | [] => .int 0
  | p :: ps => ps.foldl Numeral.max p

/-- The priority of the next rule of a workspace: one more than the highest. -/
def nextPriority (s : Store) (ws : String) : Numeral := (s.topPriority ws).succ

theorem le_freeFrom (ids : List Int) (n : Int) : n ≤ freeFrom ids n := by
  fun_induction freeFrom ids n with
  | case1 ids n h ih => omega
  | case2 ids n h => exact Int.le_refl n

theorem freeFrom_notMem (ids : List Int) (n : Int) : freeFrom ids n ∉ ids := by
  fun_induction freeFrom ids n with
  | case1 ids n h ih =>
    have hle := le_freeFrom (ids.erase n) (n + 1)
    rwa [List.mem_erase_of_ne (by omega)] at ih
  | case2 ids n h => exact h

/-- The next id is above all others while these are in front of the largest number. -/
theorem lt_nextId {s : Store} (h : ∀ r ∈ s.rows, r.id < maxInt64) {r : Row} (hr : r ∈ s.rows) :
    r.id < s.nextId := by
  have hm : r.id ∈ s.rows.map (·.id) := List.mem_map_of_mem hr
  unfold nextId
  split
  · rename_i hn
    rw [List.max?_eq_none_iff.mp hn] at hm
    exact absurd hm List.not_mem_nil
  · rename_i n hn
    obtain ⟨hmem, hle⟩ := List.max?_eq_some_iff.mp hn
    obtain ⟨r', hr', rfl⟩ := List.mem_map.mp hmem
    have := hle _ hm
    rw [if_pos (h r' hr')]
    omega

theorem nextId_notMem (s : Store) : s.nextId ∉ s.rows.map (·.id) := by
  unfold nextId
  split
  · rename_i hn
    rw [List.max?_eq_none_iff.mp hn]
    exact List.not_mem_nil
  · rename_i n hn
    split
    · intro hmem
      have := (List.max?_eq_some_iff.mp hn).2 _ hmem
      omega
    · exact freeFrom_notMem _ _

/-! ## Changes of the table -/

/-- The table with a row behind the others. -/
def append (s : Store) (r : Row) (h : r.id ∉ s.rows.map (·.id)) : Store where
  rows := s.rows ++ [r]
  keyed := by
    rw [List.map_append, List.nodup_append]
    refine ⟨s.keyed, by simp, fun a ha b hb e => h ?_⟩
    rw [List.map_singleton, List.mem_singleton] at hb
    exact hb ▸ e ▸ ha

/-- The table with every row changed. -/
def mapRows (s : Store) (f : Row → Row) (hf : ∀ r, (f r).id = r.id) : Store where
  rows := s.rows.map f
  keyed := by
    rw [List.map_map, show (·.id) ∘ f = Row.id from funext hf]
    exact s.keyed

/-- The table with the row of a rule changed. -/
def modify (s : Store) (ws : String) (id : Int) (f : Row → Row) (hf : ∀ r, (f r).id = r.id) :
    Store :=
  s.mapRows (fun r => if isRow ws id r then f r else r) fun r => by
    split
    · exact hf r
    · rfl

/-- The table without the row of a rule. -/
def erase (s : Store) (ws : String) (id : Int) : Store where
  rows := s.rows.filter (!isRow ws id ·)
  keyed := s.keyed.sublist (List.filter_sublist.map _)

end Store

end PostingRules
