import PostingRules.Amount.Reader
import PostingRules.Csv.Reader
import PostingRules.Rule.Suggestions

/-!
# Bank statements

A statement is a list of records. The first record that names a column for the description and one
for the amount is its header; the records behind it are transactions.

* `Columns`, `columns?`: the two columns that a header names;
* `body?`: the columns and the records behind the header;
* `Row`, `row`: a transaction with its suggestions;
* `Fault`: why a statement cannot be read;
* **`evaluate`**: the rows of a statement.
-/

namespace PostingRules.Statement

open PostingRules.Text

/-- The names of the description column. -/
def descriptionNames : List String :=
  ["description", "text", "beskrivning", "rubrik", "transaktionstext", "specifikation"]

/-- The names of the amount column. -/
def amountNames : List String := ["amount", "belopp"]

/-- The columns of the description and of the amount. -/
structure Columns where
  description : Nat
  amount : Nat
  deriving DecidableEq, Repr

/-- The first field that is one of the names, without regard to case and blanks around it. -/
def column? (names : List String) (fields : List String) : Option Nat :=
  fields.findIdx? fun f => names.contains (lower (trim f))

/-- The columns of a header. -/
def columns? (fields : List String) : Option Columns := do
  let d ← column? descriptionNames fields
  let a ← column? amountNames fields
  some ⟨d, a⟩

/-- The columns of the first header, and the records behind it. -/
def body? : List Csv.Record → Option (Columns × List Csv.Record)
  | [] => none
  | r :: rs =>
    match columns? r.fields with
    | some c => some (c, rs)
    | none => body? rs

/-- A transaction of a statement: the line of its record, its description, its amount or the text
that is none, and what the rules suggest. -/
structure Row where
  line : Nat
  description : String
  amount : Except String Decimal
  matchCount : Nat
  suggestions : Suggestions Evaluation

/-- The wording of an amount that cannot be read. -/
def unreadable (text : String) : String := "unreadable amount '" ++ text ++ "'"

/-- The row of a record. -/
def row (rs : List Rule) (c : Columns) (r : Csv.Record) : Row :=
  let description := trim (r.fields.getD c.description "")
  let cell := r.fields.getD c.amount ""
  match amountOf? cell with
  | some a =>
    let es := evaluations rs ⟨description, a⟩
    ⟨r.line, description, .ok a, es.length, suggestions es⟩
  | none => ⟨r.line, description, .error (trim cell), 0, suggestions ([] : List Evaluation)⟩

/-- Has the record a field that is not blank? -/
def hasText (r : Csv.Record) : Bool := !r.fields.all allBlank

/-- Why a statement cannot be read. -/
inductive Fault
  | record (e : Csv.Fault)
  | noHeader
  deriving DecidableEq, Repr

/-- **The rows of a statement**, or why it cannot be read. -/
def evaluate (rs : List Rule) (delimiter : UInt8) (bytes : List UInt8) : Except Fault (List Row) :=
  match Csv.read delimiter bytes with
  | .error e => .error (.record e)
  | .ok records =>
    match body? records with
    | none => .error .noHeader
    | some (c, body) => .ok ((body.filter hasText).map (row rs c))

end PostingRules.Statement
