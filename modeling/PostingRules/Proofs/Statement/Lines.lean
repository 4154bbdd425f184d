import PostingRules.Proofs.Csv.Layout
import PostingRules.Proofs.Statement

/-!
# The lines of rows

* `Entry`, `Entry.Reads`: a record with the bytes it stands in;
* `exists_entries`: the records that are read are the entries of the input;
* `Entry.Gives`: the row that an entry gives, and its line;
* **`line_of_evaluate`**: each row has the line in which the record before its own ended. That is the
  line of its record just if no line feed stands between them.
-/

namespace PostingRules.Statement

/-- A record with the bytes it stands in. -/
structure Entry where
  stretch : Csv.Stretch
  record : Csv.Record
  deriving DecidableEq, Repr

/-- The record has the texts of the stretch, and the line in which the record before it ended. -/
structure Entry.Reads (e : Entry) : Prop where
  fields : Csv.ReadsFields e.stretch.fields e.record.fields
  line : e.record.line = Csv.lineBehind e.stretch.before

/-- **The row of an entry** where the description stands in column `d`, the amount in column `a`. Its
line is the one in which the record before it ended, and the line of its first byte just if no line
feed was skipped in front of it. -/
structure Entry.Gives (rs : List Rule) (d a : Nat) (e : Entry) (row : Row) : Prop where
  made : IsRowOf rs d a e.record row
  line : row.line = Csv.lineBehind e.stretch.before
  line_eq_iff : row.line = e.stretch.firstLine ↔ 10 ∉ e.stretch.skipped

variable {rs : List Rule} {delimiter : UInt8} {bytes : List UInt8} {rows : List Row}

theorem exists_entries_of_reads {raws : List Csv.Raw} {stretches : List Csv.Stretch}
    {records : List Csv.Record} (hstands : List.Forall₂ Csv.Raw.StandsIn raws stretches)
    (hreads : List.Forall₂ Csv.Raw.Reads raws records) :
    ∃ entries : List Entry, entries.map (·.stretch) = stretches ∧
      entries.map (·.record) = records ∧ ∀ e ∈ entries, e.Reads := by
  induction hstands generalizing records with
  | nil =>
    cases hreads
    exact ⟨[], rfl, rfl, nofun⟩
  | @cons r st raws stretches hr _ ih =>
    cases hreads with
    | @cons _ record _ records hrecord hreads =>
      obtain ⟨entries, rfl, rfl, hentries⟩ := ih hreads
      refine ⟨⟨st, record⟩ :: entries, rfl, rfl, List.forall_mem_cons.mpr ⟨⟨?_, ?_⟩, hentries⟩⟩
      · exact hr.fields ▸ hrecord.2
      · exact hrecord.1.trans hr.line

/-- The records that are read are the entries of the input. -/
theorem exists_entries {records : List Csv.Record} (h : Csv.read delimiter bytes = .ok records) :
    ∃ entries : List Entry, Csv.LaysOut delimiter bytes (entries.map (·.stretch)) ∧
      entries.map (·.record) = records ∧ ∀ e ∈ entries, e.Reads := by
  obtain ⟨stretches, hlays, hstands⟩ := Csv.exists_laysOut delimiter bytes
  obtain ⟨entries, rfl, hrecords, hentries⟩ :=
    exists_entries_of_reads hstands (Csv.read_eq_ok_iff.mp h)
  exact ⟨entries, hlays, hrecords, hentries⟩

theorem Entry.Reads.gives {e : Entry} (h : e.Reads) (rs : List Rule) (c : Columns) :
    e.Gives rs c.description c.amount (row rs c e.record) := by
  have hrow := isRowOf_row rs c e.record
  have hline : (row rs c e.record).line = Csv.lineBehind e.stretch.before :=
    hrow.line.trans h.line
  refine ⟨hrow, hline, ?_⟩
  rw [hline, Csv.Stretch.firstLine_eq, ← List.count_eq_zero]
  omega

/-- **The line of a row** is the one in which the record before its own ended: one more than the line
feeds up to there. The input is divided into records, those in front of the first header and the blank
ones give no row, and each of the others gives one. Its line is that of the first byte of its record
just if no line feed was skipped in front of it, as it is by an empty line, or by the line feed behind
the carriage return that ended the record before it. -/
theorem line_of_evaluate (h : evaluate rs delimiter bytes = .ok rows) :
    ∃ preamble header body d a,
      Csv.LaysOut delimiter bytes ((preamble ++ header :: body).map Entry.stretch) ∧
      (∀ e ∈ preamble ++ header :: body, e.Reads ∧ e.stretch.upTo <+: bytes) ∧
      (∀ e ∈ preamble, ¬ IsHeader e.record) ∧
      FirstNamed descriptionNames header.record.fields d ∧
      FirstNamed amountNames header.record.fields a ∧
      List.Forall₂ (Entry.Gives rs d a) (body.filter fun e => ¬ IsBlank e.record) rows := by
  unfold evaluate at h
  split at h
  · cases h
  next records hread =>
  split at h
  · cases h
  next c body hbody =>
  cases h
  obtain ⟨entries, hlays, rfl, hentries⟩ := exists_entries hread
  obtain ⟨preamble, header, hsplit, hpreamble, hd, ha⟩ := body?_eq_some_iff.mp hbody
  obtain ⟨before, behind, rfl, rfl, hbehind⟩ := List.map_eq_append_iff.mp hsplit
  obtain ⟨e, body', rfl, rfl, rfl⟩ := List.map_eq_cons_iff.mp hbehind
  refine ⟨before, e, body', c.description, c.amount, hlays, fun e he => ⟨hentries e he, ?_⟩, ?_,
    hd, ha, ?_⟩
  · exact hlays.upTo_prefix e.stretch (List.mem_map_of_mem he)
  · simpa using hpreamble
  · have hfilter : hasText ∘ Entry.record = fun e => decide (¬ IsBlank e.record) :=
      funext fun e => hasText_eq e.record
    rw [List.filter_map, hfilter, List.map_map, List.forall₂_map_right_iff, List.forall₂_same]
    intro e' he'
    have hmem : e' ∈ before ++ e :: body' :=
      List.mem_append_right before (List.mem_cons_of_mem e (List.mem_of_mem_filter he'))
    exact (hentries e' hmem).gives rs c

/-- Two transactions behind a header. All lines end in a carriage return and a line feed, and an empty
line stands between the transactions. -/
def crossed : List UInt8 := Text.Utf8.encode "text;belopp\r\nICA;-5\r\n\r\nCoop;1\r\n".toList

/-- The transactions stand in the lines 2 and 4. -/
theorem line_of_evaluate_crossed : ∃ rows preamble header body d a,
    evaluate [] 59 crossed = .ok rows ∧ rows.map (·.line) = [1, 2] ∧
      Csv.LaysOut 59 crossed ((preamble ++ header :: body).map Entry.stretch) ∧
      List.Forall₂ (Entry.Gives [] d a) (body.filter fun e => ¬ IsBlank e.record) rows := by
  have hlines : (evaluate [] 59 crossed).toOption.map (·.map (·.line)) = some [1, 2] := rfl
  cases hrows : evaluate [] 59 crossed with
  | error e =>
    rw [hrows] at hlines
    cases hlines
  | ok rows =>
    rw [hrows] at hlines
    obtain ⟨preamble, header, body, d, a, hlays, -, -, -, -, hgives⟩ := line_of_evaluate hrows
    exact ⟨rows, preamble, header, body, d, a, rfl, Option.some.inj hlines, hlays, hgives⟩

end PostingRules.Statement
