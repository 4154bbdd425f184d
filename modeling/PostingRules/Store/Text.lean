import PostingRules.Json.Reader
import PostingRules.Store.Basic
import PostingRules.Text.Split

/-!
# Tables of rules as texts

A table is written as a JSON array: its name, then an array of cells for each row.

* `Row.cellTexts`, **`Store.text`**: the text of a table;
* `Row.ofValues?`, **`Store.ofText?`**: the table of a text.
-/

namespace PostingRules

open PostingRules.Text

/-! ## Writing -/

/-- A text as a cell. -/
def textCell (s : String) : String := String.ofList (Json.quote s.toList)

/-- A cell that may be empty. -/
def optionCell {α : Type} (f : α → String) : Option α → String
  | some a => f a
  | none => "null"

/-- A number as a cell. -/
def Numeral.cell : Numeral → String
  | int n => toString n
  | float => "true"

/-- The cells of a row. -/
def Row.cellTexts (r : Row) : List String :=
  [toString r.id, textCell r.workspace, textCell r.name, optionCell textCell r.description,
    r.priority.cell, if r.active then "true" else "false", textCell r.condition, textCell r.value,
    textCell r.action, textCell r.target, r.usageCount.cell, optionCell toString r.lastMatch]

/-- The line of a row. -/
def Row.text (r : Row) : String := "[" ++ separated "," r.cellTexts ++ "]"

/-- **The text of a table.** -/
def Store.text (s : Store) : String := "[" ++ separated ",\n" ("\"rules\"" :: s.rows.map Row.text) ++ "]\n"

/-! ## Reading -/

/-- The text of a cell. -/
def cellText? : Json.Value → Option String
  | .string s => s
  | _ => none

/-- The integer of a cell. -/
def cellInt? : Json.Value → Option Int
  | .number cs => (readInt cs).toOption
  | _ => none

/-- The number of a cell. -/
def cellNumeral? : Json.Value → Option Numeral
  | .bool true => some .float
  | v => (cellInt? v).map .int

/-- The truth value of a cell. -/
def cellBool? : Json.Value → Option Bool
  | .bool b => some b
  | _ => none

/-- A cell that may be empty. -/
def cellOption? {α : Type} (f : Json.Value → Option α) : Json.Value → Option (Option α)
  | .null => some none
  | v => (f v).map some

/-- The row of some cells. -/
def Row.ofValues? : Json.Value → Option Row
  | .array [id, workspace, name, description, priority, active, condition, value, action,
      target, usageCount, lastMatch] => do
    some
      { id := ← cellInt? id
        workspace := ← cellText? workspace
        name := ← cellText? name
        description := ← cellOption? cellText? description
        priority := ← cellNumeral? priority
        active := ← cellBool? active
        condition := ← cellText? condition
        value := ← cellText? value
        action := ← cellText? action
        target := ← cellText? target
        usageCount := ← cellNumeral? usageCount
        lastMatch := (← cellOption? cellInt? lastMatch).map Int.toNat }
  | _ => none

/-- The table of some rows, if their ids differ. -/
def Store.ofRows? (rows : List Row) : Option Store :=
  if h : (rows.map (·.id)).Nodup then some ⟨rows, h⟩ else none

/-- **The table of a text**, if it is one. -/
def Store.ofText? (text : String) : Option Store :=
  match Json.read? text.toList with
  | some (.array (.string (some "rules") :: rows)) => (rows.mapM Row.ofValues?).bind Store.ofRows?
  | _ => none

end PostingRules
