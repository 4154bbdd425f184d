import PostingRules.Proofs.Csv.Writing
import PostingRules.Proofs.Statement

/-!
# Statements that are written out

A statement whose records are written out with all fields in double quotes says the same whatever
ends its records.

* `Row.unplaced`: a row without its line; `row_unplaced`: it depends on the fields of its record alone;
* `HasContent`: a field of a record is not blank;
* `exists_firstNamed`: of the fields with a name of a column one is the first;
* `evaluate_unplaced`: the rows of a statement that begins with a header, but for their lines;
* **`evaluate_written`**: one row for each record that was written behind the header and is not blank.
-/

namespace PostingRules.Statement

open PostingRules.Text

/-- A row without the line of its record. -/
def Row.unplaced (r : Row) : Row := { r with line := 0 }

/-- A field is not blank. -/
def HasContent (fields : List String) : Prop := ∃ f ∈ fields, trim f ≠ ""

instance (fields : List String) : Decidable (HasContent fields) :=
  inferInstanceAs (Decidable (∃ f ∈ fields, trim f ≠ ""))

theorem row_unplaced (rs : List Rule) (c : Columns) (r : Csv.Record) :
    (row rs c r).unplaced = row rs c ⟨0, r.fields⟩ := by
  unfold row Row.unplaced
  dsimp only
  cases amountOf? (r.fields.getD c.amount "") <;> rfl

theorem hasText_eq_hasContent (r : Csv.Record) : hasText r = decide (HasContent r.fields) := by
  rw [hasText_eq, decide_eq_decide, IsBlank, HasContent]
  push Not
  rfl

theorem exists_firstNamed {names fields : List String} (h : ∃ f ∈ fields, IsName names f) :
    ∃ i, FirstNamed names fields i := by
  simp only [← column?_eq_some_iff]
  apply Option.ne_none_iff_exists'.mp
  rw [ne_eq, column?_eq_none_iff]
  simpa using h

variable {rs : List Rule} {delimiter : UInt8} {bytes : List UInt8}

/-- The rows of a statement that begins with a header, but for their lines. -/
theorem evaluate_unplaced {r : Csv.Record} {body : List Csv.Record} {c : Columns}
    (hread : Csv.read delimiter bytes = .ok (r :: body)) (hc : columns? r.fields = some c) :
    (evaluate rs delimiter bytes).map (List.map Row.unplaced) =
      .ok (((body.map (·.fields)).filter (HasContent ·)).map fun fields => row rs c ⟨0, fields⟩) := by
  have hbody : body? (r :: body) = some (c, body) := by rw [body?, hc]
  have heval : evaluate rs delimiter bytes = .ok ((body.filter hasText).map (row rs c)) := by
    rw [evaluate, hread]
    simp only [hbody]
  have hfilter : hasText = (decide <| HasContent ·) ∘ (·.fields) := funext hasText_eq_hasContent
  have hrows : ((body.filter hasText).map (row rs c)).map Row.unplaced =
      ((body.filter hasText).map (·.fields)).map fun fields => row rs c ⟨0, fields⟩ := by
    rw [List.map_map, List.map_map]
    exact List.map_congr_left fun r _ => row_unplaced rs c r
  rw [heval, Except.map, hrows, hfilter, List.filter_map]

/-- **What was written is evaluated** record by record: behind the header there is one row for each
record with a field that is not blank, in their order, made of the fields of this record. Which bytes
end the records makes no difference but to the lines. -/
theorem evaluate_written (rs : List Rule) {delimiter : UInt8} (hd : Csv.IsDelimiter delimiter)
    {header : List String} {body : List (List String)} (hbody : ∀ fields ∈ body, fields ≠ [])
    (hdescription : ∃ f ∈ header, IsName descriptionNames f)
    (hamount : ∃ f ∈ header, IsName amountNames f) :
    ∃ d a contents, FirstNamed descriptionNames header d ∧ FirstNamed amountNames header a ∧
      List.Forall₂ (fun fields row => IsRowOf rs d a ⟨0, fields⟩ row)
        (body.filter (HasContent ·)) contents ∧
      ∀ e : Csv.Ending,
        (evaluate rs delimiter (Csv.written delimiter e (header :: body))).map
          (List.map Row.unplaced) = .ok contents := by
  obtain ⟨d, hd'⟩ := exists_firstNamed hdescription
  obtain ⟨a, ha⟩ := exists_firstNamed hamount
  have hc : columns? header = some ⟨d, a⟩ := columns?_eq_some_iff.mpr ⟨hd', ha⟩
  refine ⟨d, a, (body.filter (HasContent ·)).map fun fields => row rs ⟨d, a⟩ ⟨0, fields⟩, hd', ha,
    ?_, fun e => ?_⟩
  · rw [List.forall₂_map_right_iff, List.forall₂_same]
    exact fun fields _ => isRowOf_row rs ⟨d, a⟩ ⟨0, fields⟩
  · have hheader : header ≠ [] := by
      rintro rfl
      simp at hdescription
    obtain ⟨records, hread, hfields⟩ :=
      Csv.read_written hd e (List.forall_mem_cons.mpr ⟨hheader, hbody⟩)
    cases records with
    | nil => cases hfields
    | cons r records =>
      obtain ⟨rfl, rfl⟩ := List.cons.inj hfields
      exact evaluate_unplaced hread hc

/-- The records behind a header: fields that hold the delimiter, double quotes and the ends of records,
and a record of blanks. -/
def quotedNotes : List (List String) :=
  [["ICA; \"Maxi\"\r\n", "-1 234,50"], ["\r", ""], ["\"", "n/a"]]

theorem evaluate_written_quotedNotes :
    Csv.IsDelimiter 59 ∧ (∀ fields ∈ quotedNotes, fields ≠ []) ∧
      (∃ f ∈ ["Text", "Belopp"], IsName descriptionNames f) ∧
      (∃ f ∈ ["Text", "Belopp"], IsName amountNames f) ∧
      ∃ contents : List Row, contents.length = 2 ∧ ∀ e : Csv.Ending,
        (evaluate [] 59 (Csv.written 59 e (["Text", "Belopp"] :: quotedNotes))).map
          (List.map Row.unplaced) = .ok contents := by
  have hd : Csv.IsDelimiter 59 := by decide
  have hbody : ∀ fields ∈ quotedNotes, fields ≠ [] := by decide
  have hdescription : ∃ f ∈ ["Text", "Belopp"], IsName descriptionNames f :=
    ⟨"Text", by simp, by unfold IsName; decide⟩
  have hamount : ∃ f ∈ ["Text", "Belopp"], IsName amountNames f :=
    ⟨"Belopp", by simp, by unfold IsName; decide⟩
  obtain ⟨d, a, contents, -, -, hrows, heval⟩ :=
    evaluate_written [] hd hbody hdescription hamount
  have hlength : (quotedNotes.filter (HasContent ·)).length = 2 := by decide
  exact ⟨hd, hbody, hdescription, hamount, contents, hrows.length_eq.symm.trans hlength, heval⟩

end PostingRules.Statement
