import PostingRules.Proofs.Csv

/-!
# Records that are written out

All fields are written in double quotes, whatever is in them, and are read back as they were.

* `quotedField`, `fieldsBytes`, `Ending`, **`written`**: the bytes of a field, of the fields of a
  record, what ends it, and the bytes of all records;
* `Passes`: bytes that end no record, and where the reader stands behind them; `readFrom_append`: they
  can be skipped;
* `exists_passes_quotedField`, `exists_passes_fieldsBytes`: a field and a record up to its end;
* `exists_readFrom_record`: a record with its end;
* **`read_written`**: what was written is read back, whatever ends the records.
-/

namespace PostingRules.Csv

open PostingRules.Text

/-! ## Writing -/

/-- A text with each double quote written twice. -/
def doubled (cs : List Char) : List Char := cs.flatMap fun c => if c = '"' then [c, c] else [c]

/-- A field in double quotes. -/
def quotedField (f : String) : List UInt8 := Utf8.encode ('"' :: doubled f.toList ++ ['"'])

/-- The fields of a record, with the delimiter between them. -/
def fieldsBytes (delimiter : UInt8) (fields : List String) : List UInt8 :=
  [delimiter].intercalate (fields.map quotedField)

/-- What ends a record. -/
inductive Ending
  | lineFeed
  | carriageReturn
  | both
  deriving DecidableEq, Repr

/-- The bytes that end a record. -/
def Ending.bytes : Ending → List UInt8
  | lineFeed => [10]
  | carriageReturn => [13]
  | both => [13, 10]

/-- **The bytes of some records.** -/
def written (delimiter : UInt8) (e : Ending) (records : List (List String)) : List UInt8 :=
  records.flatMap fun fields => fieldsBytes delimiter fields ++ e.bytes

/-- The byte may stand between fields: it is no double quote and ends no record. -/
def IsDelimiter (b : UInt8) : Prop := b ≠ quoteByte ∧ isEnd b = false

instance (b : UInt8) : Decidable (IsDelimiter b) :=
  inferInstanceAs (Decidable (b ≠ quoteByte ∧ isEnd b = false))

/-- The bytes of the fields of a record. -/
def encoded (fields : List String) : List (List UInt8) := fields.map fun f => Utf8.encode f.toList

/-! ## Bytes inside a record -/

/-- The progress one byte further. -/
def Progress.moved (s : Progress) (b : UInt8) : Progress := { s with here := s.here.next b }

/-- The reader stands in `phase`, with the finished fields and the bytes of the one being read. -/
structure Progress.At (s : Progress) (phase : Phase) (fields : List (List UInt8))
    (bytes : List UInt8) : Prop where
  phase : s.phase = phase
  fields : s.fields = fields
  bytes : s.bytes = bytes

/-- The bytes end no record, and behind them the reader stands at `s'`. -/
inductive Passes (delimiter : UInt8) : Progress → List UInt8 → Progress → Prop
  | nil (s) : Passes delimiter s [] s
  | cons {s s' s'' b bytes} : s.step delimiter b = (s', none) → Passes delimiter s' bytes s'' →
    Passes delimiter s (b :: bytes) s''

variable {delimiter : UInt8} {s s' s'' : Progress} {bytes bytes' : List UInt8}
  {fields : List (List UInt8)} {content : List UInt8}

theorem Passes.append (h : Passes delimiter s bytes s') (h' : Passes delimiter s' bytes' s'') :
    Passes delimiter s (bytes ++ bytes') s'' := by
  induction h with
  | nil => exact h'
  | cons hstep _ ih => exact .cons hstep (ih h')

/-- Bytes that end no record can be skipped. -/
theorem Passes.readFrom_append (h : Passes delimiter s bytes s') (rest : List UInt8) :
    readFrom delimiter s (bytes ++ rest) = readFrom delimiter s' rest := by
  induction h with
  | nil => rfl
  | cons hstep _ ih =>
    rw [List.cons_append, readFrom, hstep]
    exact ih

theorem passes_step {b : UInt8} (h : s.step delimiter b = (s', none)) :
    Passes delimiter s [b] s' := .cons h (.nil s')

/-! ## Fields -/

/-- The reader stands before a field. -/
def Progress.Begins (s : Progress) (fields : List (List UInt8)) : Prop :=
  (s.phase = .record ∨ s.phase = .afterReturn ∨ s.phase = .field) ∧ s.fields = fields ∧ s.bytes = []

theorem exists_passes_open (delimiter : UInt8) (h : s.Begins fields) :
    ∃ s', Passes delimiter s [quoteByte] s' ∧ s'.At .quoted fields [] := by
  obtain ⟨hphase, hfields, hbytes⟩ := h
  refine ⟨{ s.moved quoteByte with phase := .quoted }, passes_step ?_, rfl, hfields, hbytes⟩
  rcases hphase with hp | hp | hp
  all_goals
    simp only [Progress.step, hp]
    rfl

theorem exists_passes_quote (delimiter : UInt8) (h : s.At .quoted fields content) :
    ∃ s', Passes delimiter s [quoteByte] s' ∧ s'.At .quote fields content := by
  refine ⟨{ s.moved quoteByte with phase := .quote }, passes_step ?_, rfl, h.fields, h.bytes⟩
  simp only [Progress.step, h.phase, if_true, Progress.moved]

theorem exists_passes_doubled_quote (delimiter : UInt8) (h : s.At .quoted fields content) :
    ∃ s', Passes delimiter s [quoteByte, quoteByte] s' ∧
      s'.At .quoted fields (quoteByte :: content) := by
  obtain ⟨s', hpass, h'⟩ := exists_passes_quote delimiter h
  refine ⟨(s'.moved quoteByte).keep .quoted quoteByte, hpass.append (passes_step ?_), rfl,
    h'.fields, congrArg _ h'.bytes⟩
  simp only [Progress.step, h'.phase, if_true, Progress.moved]

/-- Bytes without a double quote are read as they are. -/
theorem exists_passes_unquoted (delimiter : UInt8) (hb : quoteByte ∉ bytes)
    (h : s.At .quoted fields content) :
    ∃ s', Passes delimiter s bytes s' ∧ s'.At .quoted fields (bytes.reverse ++ content) := by
  induction bytes generalizing s content with
  | nil => exact ⟨s, .nil s, h⟩
  | cons b bytes ih =>
    rw [List.mem_cons, not_or] at hb
    have hstep : s.step delimiter b = ((s.moved b).keep .quoted b, none) := by
      simp only [Progress.step, h.phase, if_neg (Ne.symm hb.1), Progress.moved]
    have hkeep : ((s.moved b).keep .quoted b).At .quoted fields (b :: content) :=
      ⟨rfl, h.fields, congrArg _ h.bytes⟩
    obtain ⟨s', hpass, h'⟩ := ih hb.2 hkeep
    refine ⟨s', .cons hstep hpass, ?_⟩
    rwa [List.reverse_cons, List.append_assoc]

theorem quoteByte_notMem_utf8EncodeChar {c : Char} (hc : c ≠ '"') :
    quoteByte ∉ String.utf8EncodeChar c := by
  have hval : c.val.toNat ≠ 34 := fun h => hc (Char.ext (UInt32.toNat_inj.mp h))
  have hquote : quoteByte.toNat = 34 := rfl
  intro hmem
  rw [String.utf8EncodeChar] at hmem
  split at hmem
  · simp only [List.mem_singleton, eq_comm (a := quoteByte), Utf8.ofNat_eq_iff, hquote] at hmem
    omega
  -- the bytes of the other characters are 128 and above
  split at hmem
  · simp only [eq_comm (a := quoteByte), List.mem_cons, Utf8.ofNat_eq_iff, hquote,
      List.not_mem_nil, or_false] at hmem
    omega
  split at hmem
  all_goals
    simp only [eq_comm (a := quoteByte), List.mem_cons, Utf8.ofNat_eq_iff, hquote,
      List.not_mem_nil, or_false] at hmem
    omega

theorem exists_passes_doubled (delimiter : UInt8) (cs : List Char)
    (h : s.At .quoted fields content) :
    ∃ s', Passes delimiter s (Utf8.encode (doubled cs)) s' ∧
      s'.At .quoted fields ((Utf8.encode cs).reverse ++ content) := by
  induction cs generalizing s content with
  | nil => exact ⟨s, .nil s, h⟩
  | cons c cs ih =>
    have hfirst : ∃ s', Passes delimiter s (Utf8.encode (if c = '"' then [c, c] else [c])) s' ∧
        s'.At .quoted fields ((String.utf8EncodeChar c).reverse ++ content) := by
      by_cases hc : c = '"'
      · rw [if_pos hc, hc]
        exact exists_passes_doubled_quote delimiter h
      · rw [if_neg hc, Utf8.encode_cons]
        have hplain := quoteByte_notMem_utf8EncodeChar hc
        simpa [Utf8.encode] using exists_passes_unquoted delimiter hplain h
    obtain ⟨s₁, hpass₁, h₁⟩ := hfirst
    obtain ⟨s₂, hpass₂, h₂⟩ := ih h₁
    refine ⟨s₂, ?_, ?_⟩
    · rw [doubled, List.flatMap_cons, Utf8.encode, List.flatMap_append]
      exact hpass₁.append hpass₂
    · rwa [Utf8.encode_cons, List.reverse_append, List.append_assoc]

/-- **A field in double quotes** is read up to the closing one. -/
theorem exists_passes_quotedField (delimiter : UInt8) (f : String) (h : s.Begins fields) :
    ∃ s', Passes delimiter s (quotedField f) s' ∧
      s'.At .quote fields (Utf8.encode f.toList).reverse := by
  obtain ⟨s₁, hpass₁, h₁⟩ := exists_passes_open delimiter h
  obtain ⟨s₂, hpass₂, h₂⟩ := exists_passes_doubled delimiter f.toList h₁
  obtain ⟨s₃, hpass₃, h₃⟩ := exists_passes_quote delimiter h₂
  have hbytes : quotedField f =
      [quoteByte] ++ Utf8.encode (doubled f.toList) ++ [quoteByte] := by
    rw [quotedField, Utf8.encode, List.flatMap_append, List.flatMap_cons]
    rfl
  rw [List.append_nil] at h₃
  exact ⟨s₃, hbytes ▸ (hpass₁.append hpass₂).append hpass₃, h₃⟩

/-! ## Records -/

theorem exists_passes_delimiter (hd : IsDelimiter delimiter) (h : s.At .quote fields content) :
    ∃ s', Passes delimiter s [delimiter] s' ∧ s'.Begins (content.reverse :: fields) := by
  refine ⟨(s.moved delimiter).endField, passes_step ?_, ⟨.inr (.inr rfl), ?_, rfl⟩⟩
  · simp only [Progress.step, h.phase, if_neg hd.1, Progress.stepPlain, if_true, Progress.moved]
  · rw [← h.fields, ← h.bytes]
    rfl

/-- **The fields of a record** are read up to the closing quote of the last one. -/
theorem exists_passes_fieldsBytes (hd : IsDelimiter delimiter) {texts : List String}
    (hne : texts ≠ []) (h : s.Begins fields) :
    ∃ s', Passes delimiter s (fieldsBytes delimiter texts) s' ∧ s'.phase = .quote ∧
      s'.raw.fields = fields.reverse ++ encoded texts := by
  induction texts generalizing s fields with
  | nil => exact absurd rfl hne
  | cons f texts ih =>
    obtain ⟨s₁, hpass₁, h₁⟩ := exists_passes_quotedField delimiter f h
    cases texts with
    | nil =>
      refine ⟨s₁, ?_, h₁.phase, ?_⟩
      · rwa [fieldsBytes, List.map_singleton, List.intercalate_singleton]
      · rw [Progress.raw, h₁.fields, h₁.bytes, List.reverse_reverse, List.reverse_cons]
        rfl
    | cons g texts =>
      obtain ⟨s₂, hpass₂, h₂⟩ := exists_passes_delimiter hd h₁
      obtain ⟨s₃, hpass₃, hphase, hraw⟩ := ih (List.cons_ne_nil g texts) h₂
      refine ⟨s₃, ?_, hphase, ?_⟩
      · rw [fieldsBytes, List.map_cons, List.map_cons, List.intercalate_cons_cons, ← List.map_cons]
        exact (hpass₁.append hpass₂).append hpass₃
      · rw [hraw, List.reverse_reverse, List.reverse_cons, List.append_assoc]
        rfl

/-- The reader stands between records. -/
def Progress.Rests (s : Progress) : Prop :=
  (s.phase = .record ∨ s.phase = .afterReturn) ∧ s.fields = [] ∧ s.bytes = []

theorem Progress.Rests.begins (h : s.Rests) : s.Begins [] :=
  ⟨h.1.imp_right Or.inl, h.2⟩

/-- What ends a record ends it once: a line feed behind a carriage return is passed over. -/
theorem exists_readFrom_ending (hd : IsDelimiter delimiter) (e : Ending) (h : s.phase = .quote) :
    ∃ s', s'.Rests ∧ ∀ rest, readFrom delimiter s (e.bytes ++ rest) =
      s.raw :: readFrom delimiter s' rest := by
  have hne : ∀ b, isEnd b = true → b ≠ delimiter := by
    rintro b hb rfl
    rw [hd.2] at hb
    cases hb
  have hstep : ∀ b, b ≠ quoteByte → isEnd b = true →
      s.step delimiter b = ((s.moved b).afterEnd b, some s.raw) := by
    intro b hq hb
    simp only [Progress.step, h, if_neg hq, Progress.stepPlain, if_neg (hne b hb), if_pos hb]
    rfl
  cases e with
  | lineFeed =>
    refine ⟨(s.moved 10).afterEnd 10, ⟨.inl rfl, rfl, rfl⟩, fun rest => ?_⟩
    rw [Ending.bytes, List.singleton_append, readFrom, hstep 10 (by decide) rfl]
  | carriageReturn =>
    refine ⟨(s.moved 13).afterEnd 13, ⟨.inr rfl, rfl, rfl⟩, fun rest => ?_⟩
    rw [Ending.bytes, List.singleton_append, readFrom, hstep 13 (by decide) rfl]
  | both =>
    refine ⟨{ ((s.moved 13).afterEnd 13).moved 10 with phase := .record }, ⟨.inl rfl, rfl, rfl⟩,
      fun rest => ?_⟩
    rw [Ending.bytes, List.cons_append, readFrom, hstep 13 (by decide) rfl]
    rfl

/-- **A record with its end** is read as one record. -/
theorem exists_readFrom_record (hd : IsDelimiter delimiter) (e : Ending) {texts : List String}
    (hne : texts ≠ []) (h : s.Rests) :
    ∃ r s', r.fields = encoded texts ∧ s'.Rests ∧ ∀ rest,
      readFrom delimiter s (fieldsBytes delimiter texts ++ e.bytes ++ rest) =
        r :: readFrom delimiter s' rest := by
  obtain ⟨s₁, hpass, hphase, hraw⟩ := exists_passes_fieldsBytes hd hne h.begins
  obtain ⟨s₂, hrests, hread⟩ := exists_readFrom_ending hd e hphase
  refine ⟨s₁.raw, s₂, hraw, hrests, fun rest => ?_⟩
  rw [List.append_assoc, hpass.readFrom_append, hread]

theorem readFrom_written (hd : IsDelimiter delimiter) (e : Ending) {records : List (List String)}
    (hne : ∀ r ∈ records, r ≠ []) (h : s.Rests) :
    (readFrom delimiter s (written delimiter e records)).map (·.fields) = records.map encoded := by
  induction records generalizing s with
  | nil =>
    rcases h.1 with hp | hp
    · simp [written, readFrom, Progress.last, hp]
    · simp [written, readFrom, Progress.last, hp]
  | cons r records ih =>
    rw [List.forall_mem_cons] at hne
    obtain ⟨raw, s', hraw, hrests, hread⟩ := exists_readFrom_record hd e hne.1 h
    rw [written, List.flatMap_cons, hread, List.map_cons, List.map_cons, hraw]
    exact congrArg _ (ih hne.2 hrests)

/-! ## All records -/

theorem readRaw_eq_readFrom (h : bytes.head? ≠ some 0xEF) :
    readRaw delimiter bytes = readFrom delimiter {} bytes := by
  unfold readRaw
  split
  · exact absurd rfl h
  · rfl

theorem head?_written (delimiter : UInt8) (e : Ending) {records : List (List String)}
    (hne : ∀ r ∈ records, r ≠ []) : (written delimiter e records).head? ≠ some 0xEF := by
  cases records with
  | nil => simp [written]
  | cons r records =>
    rw [List.forall_mem_cons] at hne
    obtain ⟨f, texts, rfl⟩ := List.exists_cons_of_ne_nil hne.1
    have hquote : ∃ tail, fieldsBytes delimiter (f :: texts) = quoteByte :: tail := by
      cases texts with
      | nil => exact ⟨_, rfl⟩
      | cons g texts => exact ⟨_, rfl⟩
    obtain ⟨tail, htail⟩ := hquote
    rw [written, List.flatMap_cons, htail]
    simp [quoteByte]

theorem exists_forall₂_reads {raws : List Raw} {texts : List (List String)}
    (h : raws.map (·.fields) = texts.map encoded) :
    ∃ records, List.Forall₂ Raw.Reads raws records ∧ records.map (·.fields) = texts := by
  induction raws generalizing texts with
  | nil =>
    cases texts with
    | nil => exact ⟨[], .nil, rfl⟩
    | cons t texts => cases h
  | cons r raws ih =>
    cases texts with
    | nil => cases h
    | cons t texts =>
      rw [List.map_cons, List.map_cons, List.cons.injEq] at h
      obtain ⟨records, hreads, hfields⟩ := ih h.2
      have hr : r.Reads ⟨r.start.line, t⟩ := by
        refine ⟨rfl, ?_⟩
        rw [h.1, encoded, ReadsFields, List.forall₂_map_left_iff, List.forall₂_same]
        exact fun _ _ => rfl
      exact ⟨⟨r.start.line, t⟩ :: records, .cons hr hreads, congrArg (t :: ·) hfields⟩

/-- **What was written is read back**, whatever is in the fields and whatever ends the records. -/
theorem read_written (hd : IsDelimiter delimiter) (e : Ending) {records : List (List String)}
    (hne : ∀ r ∈ records, r ≠ []) :
    ∃ rs, read delimiter (written delimiter e records) = .ok rs ∧ rs.map (·.fields) = records := by
  have hrests : ({} : Progress).Rests := ⟨.inl rfl, rfl, rfl⟩
  have hraws := readFrom_written hd e hne hrests
  rw [← readRaw_eq_readFrom (head?_written delimiter e hne)] at hraws
  obtain ⟨rs, hreads, hfields⟩ := exists_forall₂_reads hraws
  exact ⟨rs, read_eq_ok_iff.mpr hreads, hfields⟩

example : (read 59 (written 59 .lineFeed [["a;b", "c\"d"], [""]])).toOption =
    some [⟨1, ["a;b", "c\"d"]⟩, ⟨2, [""]⟩] := by decide

end PostingRules.Csv
