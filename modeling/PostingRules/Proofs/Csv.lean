import PostingRules.Csv.Reader
import PostingRules.Proofs.Except
import PostingRules.Proofs.Text.Utf8

/-!
# The texts of records

* `IsText`, `Raw.IsText`, `Raw.Reads`: bytes that are those of a text, and the texts of a record;
* `FailsAt`: the first field that is no text, and how far it is one;
* **`read_eq_ok_iff`**: the records that are read are those of the input, if all are texts;
* **`read_eq_error_iff`**: the fault is that of the first record that is not.
-/

namespace PostingRules.Csv

open PostingRules.Text

/-- The bytes are those of a text. -/
def IsText (bytes : List UInt8) : Prop := ∃ s : String, Utf8.encode s.toList = bytes

/-- The bytes of all fields are those of texts. -/
def Raw.IsText (r : Raw) : Prop := ∀ f ∈ r.fields, Csv.IsText f

/-- The bytes of the fields are those of the texts. -/
def ReadsFields : List (List UInt8) → List String → Prop :=
  List.Forall₂ fun f s => Utf8.encode s.toList = f

/-- The texts of a record. -/
def Raw.Reads (r : Raw) (record : Record) : Prop :=
  record.line = r.start.line ∧ ReadsFields r.fields record.fields

/-- The first field that is no text, and the length of the text that it begins with. -/
def FailsAt (fields : List (List UInt8)) (field index : Nat) : Prop :=
  ∃ before cs rest after, fields = before ++ (Utf8.encode cs ++ rest) :: after ∧
    (∀ f ∈ before, IsText f) ∧ field = before.length ∧
    rest ≠ [] ∧ Utf8.IllFormed rest ∧ index = (Utf8.encode cs).length

/-! ## Fields -/

/-- The text of a field, or how far it is one. -/
def decodeField (f : List UInt8) : Except Nat String := (Utf8.decode f).map String.ofList

theorem decodeField_eq_ok_iff {f : List UInt8} {s : String} :
    decodeField f = .ok s ↔ Utf8.encode s.toList = f := by
  rw [← Utf8.decode_eq_ok_iff, decodeField]
  cases Utf8.decode f with
  | error i => exact ⟨nofun, nofun⟩
  | ok cs => simp [Except.map, String.ext_iff]

theorem decodeField_eq_error_iff {f : List UInt8} {i : Nat} :
    decodeField f = .error i ↔ Utf8.decode f = .error i := by
  rw [decodeField]
  cases Utf8.decode f <;> simp [Except.map]

theorem exists_readsFields_iff {fields : List (List UInt8)} :
    (∃ texts, ReadsFields fields texts) ↔ ∀ f ∈ fields, IsText f := by
  induction fields with
  | nil => exact iff_of_true ⟨[], .nil⟩ nofun
  | cons f fs ih =>
    rw [List.forall_mem_cons, ← ih]
    constructor
    · rintro ⟨_, h⟩
      cases h with
      | cons hf hfs => exact ⟨⟨_, hf⟩, _, hfs⟩
    · rintro ⟨⟨s, hf⟩, texts, hfs⟩
      exact ⟨s :: texts, .cons hf hfs⟩

theorem traverses_decodeFields : Traverses decodeField (fun n _ i => (n, i)) decodeFields where
  nil _ := rfl
  ok n f s l hf := by
    unfold decodeField at hf
    rw [decodeFields]
    cases h : Utf8.decode f with
    | error i =>
      rw [h] at hf
      cases hf
    | ok cs =>
      rw [h] at hf
      cases hf
      rfl
  error n f i l hf := by
    rw [decodeFields, decodeField_eq_error_iff.mp hf]

theorem decodeFields_eq_ok_iff {n : Nat} {fields : List (List UInt8)} {texts : List String} :
    decodeFields n fields = .ok texts ↔ ReadsFields fields texts := by
  rw [traverses_decodeFields.eq_ok_iff]
  simp only [decodeField_eq_ok_iff]
  rfl

theorem decodeFields_eq_error_iff {fields : List (List UInt8)} {field index : Nat} :
    decodeFields 0 fields = .error (field, index) ↔ FailsAt fields field index := by
  rw [traverses_decodeFields.eq_error_iff]
  simp only [decodeField_eq_ok_iff, decodeField_eq_error_iff, Utf8.decode_eq_error_iff,
    Nat.zero_add, Prod.mk.injEq]
  constructor
  · rintro ⟨before, _, after, _, rfl, hb, ⟨cs, rest, rfl, hne, hill, rfl⟩, rfl, rfl⟩
    exact ⟨before, cs, rest, after, rfl, hb, rfl, hne, hill, rfl⟩
  · rintro ⟨before, cs, rest, after, rfl, hb, rfl, hne, hill, rfl⟩
    exact ⟨before, _, after, _, rfl, hb, ⟨cs, rest, rfl, hne, hill, rfl⟩, rfl, rfl⟩

/-- A record with a field that is no text is none. -/
theorem FailsAt.not_isText {r : Raw} {field index : Nat} (h : FailsAt r.fields field index) :
    ¬ r.IsText := by
  intro ht
  obtain ⟨texts, htexts⟩ := exists_readsFields_iff.mpr ht
  have hok : decodeFields 0 r.fields = .ok texts := decodeFields_eq_ok_iff.mpr htexts
  rw [decodeFields_eq_error_iff.mpr h] at hok
  cases hok

/-! ## Records -/

/-- The texts of a record, or the field and byte where they end. -/
def decodeRecord (r : Raw) : Except (Nat × Nat) Record :=
  (decodeFields 0 r.fields).map (Record.mk r.start.line)

theorem decodeRecord_eq_ok_iff {r : Raw} {record : Record} :
    decodeRecord r = .ok record ↔ r.Reads record := by
  rw [Raw.Reads, ← decodeFields_eq_ok_iff (n := 0), decodeRecord]
  obtain ⟨line, fields⟩ := record
  cases decodeFields 0 r.fields with
  | error p => simp [Except.map]
  | ok texts => simp [Except.map, eq_comm]

theorem decodeRecord_eq_error_iff {r : Raw} {field index : Nat} :
    decodeRecord r = .error (field, index) ↔ FailsAt r.fields field index := by
  rw [← decodeFields_eq_error_iff, decodeRecord]
  cases decodeFields 0 r.fields <;> simp [Except.map]

theorem exists_decodeRecord_iff {r : Raw} : (∃ record, decodeRecord r = .ok record) ↔ r.IsText := by
  rw [Raw.IsText, ← exists_readsFields_iff]
  simp only [decodeRecord_eq_ok_iff]
  constructor
  · rintro ⟨record, -, h⟩
    exact ⟨record.fields, h⟩
  · rintro ⟨texts, h⟩
    exact ⟨⟨r.start.line, texts⟩, rfl, h⟩

theorem traverses_decodeRecords :
    Traverses decodeRecord (fun n r p => ⟨n, r.start, p.1, p.2⟩) decodeRecords where
  nil _ := rfl
  ok n r record l hr := by
    unfold decodeRecord at hr
    rw [decodeRecords]
    cases h : decodeFields 0 r.fields with
    | error p =>
      rw [h] at hr
      cases hr
    | ok texts =>
      rw [h] at hr
      cases hr
      rfl
  error n r p l hr := by
    obtain ⟨field, index⟩ := p
    rw [decodeRecords, decodeFields_eq_error_iff.mpr (decodeRecord_eq_error_iff.mp hr)]

variable {delimiter : UInt8} {bytes : List UInt8}

/-- **The records that are read** are those of the input, if all are texts. -/
theorem read_eq_ok_iff {records : List Record} : read delimiter bytes = .ok records ↔
    List.Forall₂ Raw.Reads (readRaw delimiter bytes) records := by
  rw [read, traverses_decodeRecords.eq_ok_iff]
  simp only [decodeRecord_eq_ok_iff]

/-- **The fault** is that of the first record that is no text. -/
theorem read_eq_error_iff {e : Fault} : read delimiter bytes = .error e ↔
    ∃ before r after, readRaw delimiter bytes = before ++ r :: after ∧ (∀ q ∈ before, q.IsText) ∧
      FailsAt r.fields e.field e.index ∧ e.record = before.length ∧ e.start = r.start := by
  rw [read, traverses_decodeRecords.eq_error_iff]
  simp only [exists_decodeRecord_iff, Nat.zero_add]
  constructor
  · rintro ⟨before, r, after, ⟨field, index⟩, hraw, hb, hr, rfl⟩
    exact ⟨before, r, after, hraw, hb, decodeRecord_eq_error_iff.mp hr, rfl, rfl⟩
  · rintro ⟨before, r, after, hraw, hb, hr, hrecord, hstart⟩
    refine ⟨before, r, after, _, hraw, hb, decodeRecord_eq_error_iff.mpr hr, ?_⟩
    rw [← hrecord, ← hstart]

end PostingRules.Csv
