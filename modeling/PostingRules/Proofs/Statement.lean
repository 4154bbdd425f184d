import PostingRules.Statement.Basic
import PostingRules.Proofs.Csv
import PostingRules.Proofs.Text.Trim

/-!
# What is made of a statement

* `IsName`, `FirstNamed`, `IsHeader`: a column, and a record that names both;
* `body?_eq_some_iff`, `body?_eq_none_iff`: the records behind the first header;
* `IsRowOf`: the row of a record; `forall₂_isRowOf_iff`: there is one;
* `Evaluates`: what a statement is to give; **`evaluate_eq_iff`**: it gives that and nothing else.
-/

namespace PostingRules.Statement

open PostingRules.Text

/-! ## Headers -/

/-- Trimmed and in lower case the field is one of the names. -/
def IsName (names : List String) (f : String) : Prop := lower (trim f) ∈ names

/-- The first field that is one of the names. -/
def FirstNamed (names fields : List String) (i : Nat) : Prop :=
  ∃ h : i < fields.length, IsName names fields[i] ∧ ∀ j (hj : j < i), ¬ IsName names fields[j]

/-- A field is the name of a description column, and a field is that of an amount column. -/
def IsHeader (r : Csv.Record) : Prop :=
  (∃ f ∈ r.fields, IsName descriptionNames f) ∧ ∃ f ∈ r.fields, IsName amountNames f

variable {names fields : List String}

theorem column?_eq_some_iff {i : Nat} :
    column? names fields = some i ↔ FirstNamed names fields i := by
  rw [column?, List.findIdx?_eq_some_iff_getElem]
  simp only [List.contains_iff_mem]
  rfl

theorem column?_eq_none_iff : column? names fields = none ↔ ∀ f ∈ fields, ¬ IsName names f := by
  rw [column?, List.findIdx?_eq_none_iff]
  simp only [← Bool.not_eq_true, List.contains_iff_mem]
  rfl

theorem columns?_eq_some_iff {c : Columns} : columns? fields = some c ↔
    FirstNamed descriptionNames fields c.description ∧ FirstNamed amountNames fields c.amount := by
  obtain ⟨d, a⟩ := c
  simp only [← column?_eq_some_iff, columns?]
  cases column? descriptionNames fields <;> cases column? amountNames fields <;> simp

theorem columns?_eq_none_iff {r : Csv.Record} : columns? r.fields = none ↔ ¬ IsHeader r := by
  have hname : ∀ names, (∃ f ∈ r.fields, IsName names f) ↔ column? names r.fields ≠ none := by
    intro names
    rw [ne_eq, column?_eq_none_iff]
    simp
  rw [IsHeader, hname, hname, columns?]
  cases column? descriptionNames r.fields <;> cases column? amountNames r.fields <;> simp

theorem body?_eq_none_iff {records : List Csv.Record} :
    body? records = none ↔ ∀ r ∈ records, ¬ IsHeader r := by
  induction records with
  | nil => exact iff_of_true rfl nofun
  | cons r records ih =>
    rw [List.forall_mem_cons, ← columns?_eq_none_iff, body?]
    cases h : columns? r.fields with
    | none => simp [ih]
    | some c => simp

/-- **The records behind the first header**, and its columns. -/
theorem body?_eq_some_iff {records body : List Csv.Record} {c : Columns} :
    body? records = some (c, body) ↔ ∃ preamble header, records = preamble ++ header :: body ∧
      (∀ r ∈ preamble, ¬ IsHeader r) ∧ FirstNamed descriptionNames header.fields c.description ∧
        FirstNamed amountNames header.fields c.amount := by
  simp only [← columns?_eq_some_iff, ← columns?_eq_none_iff]
  induction records with
  | nil => exact ⟨nofun, fun ⟨_, _, h, _⟩ => by simp at h⟩
  | cons r records ih =>
    rw [body?]
    cases hr : columns? r.fields with
    | none =>
      simp only [ih]
      constructor
      · rintro ⟨preamble, header, rfl, hp, hc⟩
        exact ⟨r :: preamble, header, rfl, List.forall_mem_cons.mpr ⟨hr, hp⟩, hc⟩
      · rintro ⟨preamble, header, hrecords, hp, hc⟩
        cases preamble with
        | nil =>
          cases hrecords
          rw [hr] at hc
          cases hc
        | cons q preamble =>
          cases hrecords
          exact ⟨preamble, header, rfl, (List.forall_mem_cons.mp hp).2, hc⟩
    | some c' =>
      constructor
      · rintro ⟨⟩
        exact ⟨[], r, rfl, nofun, hr⟩
      · rintro ⟨preamble, header, hrecords, hp, hc⟩
        cases preamble with
        | nil =>
          cases hrecords
          rw [hr] at hc
          cases hc
          rfl
        | cons q preamble =>
          cases hrecords
          rw [hp r List.mem_cons_self] at hr
          cases hr

/-! ## Rows -/

/-- No field has anything but blanks. -/
def IsBlank (r : Csv.Record) : Prop := ∀ f ∈ r.fields, trim f = ""

instance (r : Csv.Record) : Decidable (IsBlank r) := by unfold IsBlank; infer_instance

theorem hasText_eq (r : Csv.Record) : hasText r = decide (¬ IsBlank r) := by
  have hall : r.fields.all allBlank = true ↔ IsBlank r := by
    rw [List.all_eq_true]
    simp only [allBlank_eq_true_iff]
    rfl
  rw [hasText, Bool.eq_iff_iff, Bool.not_eq_true', ← Bool.not_eq_true, hall, decide_eq_true_eq]

/-- **The row of a record** where the description stands in column `d`, the amount in column `a`. -/
structure IsRowOf (rs : List Rule) (d a : Nat) (r : Csv.Record) (row : Row) : Prop where
  line : row.line = r.line
  description : row.description = trim (r.fields.getD d "")
  readable : ∀ x, amountOf? (r.fields.getD a "") = some x →
    let ms := findMatches rs ⟨row.description, x⟩
    row.amount = .ok x ∧ row.matchCount = ms.length ∧
      row.suggestions = suggestions (ms.map Match.evaluation)
  unreadable : amountOf? (r.fields.getD a "") = none →
    row.amount = .error (trim (r.fields.getD a "")) ∧ row.matchCount = 0 ∧
      row.suggestions = ⟨[], [], none⟩

theorem isRowOf_row (rs : List Rule) (c : Columns) (r : Csv.Record) :
    IsRowOf rs c.description c.amount r (row rs c r) := by
  cases h : amountOf? (r.fields.getD c.amount "") with
  | none =>
    have hrow : row rs c r = ⟨r.line, trim (r.fields.getD c.description ""),
        .error (trim (r.fields.getD c.amount "")), 0, suggestions ([] : List Evaluation)⟩ := by
      simp only [row, h]
    rw [hrow]
    exact ⟨rfl, rfl, fun x hx => (nomatch h.symm.trans hx), fun _ => ⟨rfl, rfl, rfl⟩⟩
  | some x =>
    let es := evaluations rs ⟨trim (r.fields.getD c.description ""), x⟩
    have hrow : row rs c r =
        ⟨r.line, trim (r.fields.getD c.description ""), .ok x, es.length, suggestions es⟩ := by
      simp only [row, h, es]
    rw [hrow]
    refine ⟨rfl, rfl, fun y hy => ?_, fun hnone => nomatch h.symm.trans hnone⟩
    cases h.symm.trans hy
    exact ⟨rfl, List.length_map _, rfl⟩

/-- A record has one row. -/
theorem IsRowOf.unique {rs : List Rule} {d a : Nat} {r : Csv.Record} {row' row'' : Row}
    (h : IsRowOf rs d a r row') (h' : IsRowOf rs d a r row'') : row' = row'' := by
  obtain ⟨line, description, amount, matchCount, suggestions⟩ := row'
  obtain ⟨line', description', amount', matchCount', suggestions'⟩ := row''
  obtain ⟨rfl, rfl, hreadable, hunreadable⟩ := h
  obtain ⟨rfl, rfl, hreadable', hunreadable'⟩ := h'
  dsimp only at hreadable hunreadable hreadable' hunreadable'
  cases hx : amountOf? (r.fields.getD a "") with
  | none =>
    obtain ⟨rfl, rfl, rfl⟩ := hunreadable hx
    obtain ⟨rfl, rfl, rfl⟩ := hunreadable' hx
    rfl
  | some x =>
    obtain ⟨rfl, rfl, rfl⟩ := hreadable x hx
    obtain ⟨rfl, rfl, rfl⟩ := hreadable' x hx
    rfl

/-- **The rows of some records** are those that are made of them. -/
theorem forall₂_isRowOf_iff {rs : List Rule} {c : Columns} {body : List Csv.Record}
    {rows : List Row} : List.Forall₂ (IsRowOf rs c.description c.amount) body rows ↔
      body.map (row rs c) = rows := by
  have hrow : IsRowOf rs c.description c.amount = fun r row' => row rs c r = row' := by
    funext r row'
    refine propext ⟨(isRowOf_row rs c r).unique, ?_⟩
    rintro rfl
    exact isRowOf_row rs c r
  rw [hrow, ← List.forall₂_map_left_iff (R := Eq), List.forall₂_eq_eq_eq]

/-! ## Statements -/

/-- **What a statement is to give**, as its records stand in the input. -/
inductive Evaluates (rs : List Rule) (raws : List Csv.Raw) : Except Fault (List Row) → Prop
  /-- The fault of the first record that is no text. -/
  | unreadable {before r after e} : raws = before ++ r :: after → (∀ q ∈ before, q.IsText) →
    ¬ r.IsText → Csv.FailsAt r.fields e.field e.index → e.record = before.length →
    e.start = r.start → Evaluates rs raws (.error (.record e))
  /-- No record is a header. -/
  | headless {records} : List.Forall₂ Csv.Raw.Reads raws records → (∀ r ∈ records, ¬ IsHeader r) →
    Evaluates rs raws (.error .noHeader)
  /-- A row for each record behind the first header that is not blank. -/
  | rows {records preamble header body d a rows} : List.Forall₂ Csv.Raw.Reads raws records →
    records = preamble ++ header :: body → (∀ r ∈ preamble, ¬ IsHeader r) →
    FirstNamed descriptionNames header.fields d → FirstNamed amountNames header.fields a →
    List.Forall₂ (IsRowOf rs d a) (body.filter fun r => ¬ IsBlank r) rows →
    Evaluates rs raws (.ok rows)

/-- **A statement gives** what it is to give, and nothing else. -/
theorem evaluate_eq_iff (rs : List Rule) (delimiter : UInt8) (bytes : List UInt8)
    (result : Except Fault (List Row)) :
    evaluate rs delimiter bytes = result ↔ Evaluates rs (Csv.readRaw delimiter bytes) result := by
  have hfilter : hasText = fun r => decide (¬ IsBlank r) := funext hasText_eq
  constructor
  · rintro rfl
    unfold evaluate
    split
    · next e he =>
      obtain ⟨before, r, after, hraws, hb, hr, hrecord, hstart⟩ := Csv.read_eq_error_iff.mp he
      exact .unreadable hraws hb hr.not_isText hr hrecord hstart
    · next records hread =>
      have hrecords := Csv.read_eq_ok_iff.mp hread
      split
      · next hnone => exact .headless hrecords (body?_eq_none_iff.mp hnone)
      · next c body hsome =>
        obtain ⟨preamble, header, hsplit, hp, hd, ha⟩ := body?_eq_some_iff.mp hsome
        exact .rows hrecords hsplit hp hd ha (forall₂_isRowOf_iff.mpr (by rw [hfilter]))
  · intro h
    cases h with
    | unreadable hraws hb _ hr hrecord hstart =>
      rw [evaluate, Csv.read_eq_error_iff.mpr ⟨_, _, _, hraws, hb, hr, hrecord, hstart⟩]
    | headless hrecords hnone =>
      rw [evaluate, Csv.read_eq_ok_iff.mpr hrecords]
      simp only [body?_eq_none_iff.mpr hnone]
    | @rows records preamble header body d a rows hrecords hsplit hp hd ha hrows =>
      have hbody : body? records = some (⟨d, a⟩, body) :=
        body?_eq_some_iff.mpr ⟨preamble, header, hsplit, hp, hd, ha⟩
      rw [evaluate, Csv.read_eq_ok_iff.mpr hrecords]
      simp only [hbody, hfilter]
      exact congrArg Except.ok (forall₂_isRowOf_iff.mp hrows)

end PostingRules.Statement
