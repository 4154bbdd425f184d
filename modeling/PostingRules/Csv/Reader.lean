import PostingRules.Text.Utf8

/-!
# Records of separated values

A record ends at a line feed, a carriage return or both, and an empty line holds none. A field that
begins with a double quote runs to the next one, a quote inside it is written twice, and what stands
behind the closing quote belongs to the field too.

* `Place`, `Raw`, `Record`: places in the input, a record as bytes, and a record as texts;
* `Phase`, `Progress.step`: where the reader stands, and one byte;
* `readRaw`: the records of an input;
* `Fault`: a field that is not UTF-8;
* **`read`**: the records of an input as texts.
-/

namespace PostingRules.Csv

open PostingRules.Text

/-- A place in the input: the bytes before it, and one more than the line feeds before it. -/
structure Place where
  byte : Nat := 0
  line : Nat := 1
  deriving DecidableEq, Repr

/-- The place behind a byte. -/
def Place.next (p : Place) (b : UInt8) : Place :=
  ⟨p.byte + 1, if b = 10 then p.line + 1 else p.line⟩

/-- A record as bytes. It starts where the record before it ended, empty lines included. -/
structure Raw where
  start : Place
  fields : List (List UInt8)
  deriving DecidableEq, Repr

/-- Where the reader stands. -/
inductive Phase
  /-- Before a record. -/
  | record
  /-- Behind the carriage return that ended a record. -/
  | afterReturn
  /-- Before a field. -/
  | field
  /-- In a field outside quotes. -/
  | plain
  /-- In a quoted field. -/
  | quoted
  /-- Behind a quote in a quoted field. -/
  | quote
  deriving DecidableEq, Repr

/-- What has been read of a record: where it started, where the reader stands, the finished fields
and the bytes of the one being read, both last first. -/
structure Progress where
  start : Place := {}
  here : Place := {}
  phase : Phase := .record
  fields : List (List UInt8) := []
  bytes : List UInt8 := []
  deriving DecidableEq, Repr

/-- The double quote. -/
def quoteByte : UInt8 := 34

/-- Does the byte end a record? -/
def isEnd (b : UInt8) : Bool := b = 10 || b = 13

/-- The record that ends here. -/
def Progress.raw (s : Progress) : Raw := ⟨s.start, (s.bytes.reverse :: s.fields).reverse⟩

/-- The progress behind one more byte of the field. -/
def Progress.keep (s : Progress) (phase : Phase) (b : UInt8) : Progress :=
  { s with phase := phase, bytes := b :: s.bytes }

/-- The progress behind the end of a field. -/
def Progress.endField (s : Progress) : Progress :=
  { s with phase := .field, fields := s.bytes.reverse :: s.fields, bytes := [] }

/-- The progress behind the byte that ended a record. -/
def Progress.afterEnd (s : Progress) (b : UInt8) : Progress :=
  { start := s.here, here := s.here, phase := if b = 13 then .afterReturn else .record }

/-- One byte inside a record where no quote counts. -/
def Progress.stepPlain (delimiter : UInt8) (s : Progress) (b : UInt8) : Progress × Option Raw :=
  if b = delimiter then (s.endField, none)
  else if isEnd b then (s.afterEnd b, some s.raw)
  else (s.keep .plain b, none)

/-- One byte at the start of a field. -/
def Progress.stepField (delimiter : UInt8) (s : Progress) (b : UInt8) : Progress × Option Raw :=
  if b = quoteByte then ({ s with phase := .quoted }, none) else s.stepPlain delimiter b

/-- One byte before a record. -/
def Progress.stepRecord (delimiter : UInt8) (s : Progress) (b : UInt8) : Progress × Option Raw :=
  if isEnd b then ({ s with phase := .record }, none) else s.stepField delimiter b

/-- One byte: the progress behind it, and the record that it ended. -/
def Progress.step (delimiter : UInt8) (s : Progress) (b : UInt8) : Progress × Option Raw :=
  let s := { s with here := s.here.next b }
  match s.phase with
  | .record => s.stepRecord delimiter b
  | .afterReturn =>
    if b = 10 then ({ s with phase := .record }, none) else s.stepRecord delimiter b
  | .field => s.stepField delimiter b
  | .plain => s.stepPlain delimiter b
  | .quoted =>
    if b = quoteByte then ({ s with phase := .quote }, none) else (s.keep .quoted b, none)
  | .quote => if b = quoteByte then (s.keep .quoted b, none) else s.stepPlain delimiter b

/-- The record that the end of the input ends. -/
def Progress.last (s : Progress) : List Raw :=
  match s.phase with
  | .record | .afterReturn => []
  | _ => [s.raw]

/-- The records of the rest of an input. -/
def readFrom (delimiter : UInt8) (s : Progress) : List UInt8 → List Raw
  | [] => s.last
  | b :: bs =>
    match s.step delimiter b with
    | (s', some r) => r :: readFrom delimiter s' bs
    | (s', none) => readFrom delimiter s' bs

/-- The records of an input. A byte order mark at its start is passed over. -/
def readRaw (delimiter : UInt8) : List UInt8 → List Raw
  | 0xEF :: 0xBB :: 0xBF :: bs => readFrom delimiter { here := ⟨3, 1⟩ } bs
  | bs => readFrom delimiter {} bs

/-! ## Texts -/

/-- A record: the line of its start, and its fields. -/
structure Record where
  line : Nat
  fields : List String
  deriving DecidableEq, Repr

/-- A field that is not UTF-8: the records before, where the record starts, the field's index, and
its bytes before the first bad one. -/
structure Fault where
  record : Nat
  start : Place
  field : Nat
  index : Nat
  deriving DecidableEq, Repr

/-- The wording of a fault. -/
def Fault.message (e : Fault) : String :=
  s!"CSV parse error: record {e.record} (line {e.start.line}, field: {e.field}, byte: {e.start.byte}): invalid utf-8: invalid UTF-8 in field {e.field} near byte index {e.index}"

/-- The texts of fields from number `n` on, or the first field and byte that are not UTF-8. -/
def decodeFields (n : Nat) : List (List UInt8) → Except (Nat × Nat) (List String)
  | [] => .ok []
  | f :: fs =>
    match Utf8.decode f with
    | .error i => .error (n, i)
    | .ok cs => (decodeFields (n + 1) fs).map (String.ofList cs :: ·)

/-- The texts of records from number `n` on. -/
def decodeRecords (n : Nat) : List Raw → Except Fault (List Record)
  | [] => .ok []
  | r :: rs =>
    match decodeFields 0 r.fields with
    | .error (field, index) => .error ⟨n, r.start, field, index⟩
    | .ok fields => (decodeRecords (n + 1) rs).map (⟨r.start.line, fields⟩ :: ·)

/-- **The records of an input**, or the first field that is not UTF-8. -/
def read (delimiter : UInt8) (bytes : List UInt8) : Except Fault (List Record) :=
  decodeRecords 0 (readRaw delimiter bytes)

end PostingRules.Csv
