import PostingRules.Proofs.Amount
import PostingRules.Proofs.CommandLine
import PostingRules.Proofs.Condition.Order
import PostingRules.Proofs.Matching
import PostingRules.Proofs.Statement

/-!
# Limits are amounts

The reader of amounts drops blanks, quotes and units and makes a point of the decimal mark. None of
that touches a text that is a limit of a condition.

* `amountText_framed_number`, `pointed_number`, **`amountOf?_eq_of_threshold?`**: a limit is read as
  the same amount;
* `Rule.AsksExactly`: a rule on amounts from a limit to itself; `Rule.AsksExactly.exists_match`: it
  matches that amount;
* `exists_row_of_cell`: so it matches every record of a statement in which the limit stands as the
  amount;
* `amount?_of_hasOption`, `read_evaluate_amount`: and every amount that the command line gives as that
  text;
* **`limits_are_amounts`**: all of it.
-/

namespace PostingRules

open PostingRules.Text

variable {v : String} {x : Decimal}

/-! ## Reading a limit as an amount -/

theorem isKept_of_isNumberChar {c : Char} (h : Decimal.IsNumberChar c) : isKept c = true := by
  have hquote : c ≠ '"' := by
    rintro rfl
    exact absurd h (by decide)
  simp [isKept, h.isBlank_eq_false, hquote]

theorem filter_isKept_of_allBlank {cs : List Char} (h : AllBlank cs) : cs.filter isKept = [] := by
  rw [List.filter_eq_nil_iff]
  intro c hc
  simp [isKept, h c hc]

/-- **Of a number with blanks around it** the number is left. It does not end in a unit. -/
theorem amountText_framed_number {front core back : List Char} (hfront : AllBlank front)
    (hback : AllBlank back) (hcore : ∀ c ∈ core, Decimal.IsNumberChar c) :
    amountText (front ++ core ++ back) = core := by
  have hkept : (front ++ core ++ back).filter isKept = core := by
    rw [List.filter_append, List.filter_append, filter_isKept_of_allBlank hfront,
      filter_isKept_of_allBlank hback, List.nil_append, List.append_nil, List.filter_eq_self]
    exact fun c hc => isKept_of_isNumberChar (hcore c hc)
  have hlast : ∀ c, ¬ Decimal.IsNumberChar c → core.reverse.head? ≠ some c := by
    intro c hc h
    exact hc (hcore c (List.mem_reverse.mp (List.mem_of_head? h)))
  change (dropSek (dropKr (List.filter isKept _).reverse)).reverse = core
  rw [hkept, dropKr_of_head (hlast 'r' (by decide)), dropSek_of_head (hlast 'K' (by decide)),
    List.reverse_reverse]

/-- **In a number** the decimal mark is a point already. -/
theorem pointed_number {core : List Char} (hcore : ∀ c ∈ core, Decimal.IsNumberChar c) :
    pointed core = core := by
  have hcomma : ',' ∉ core := fun h => absurd (hcore _ h) (by decide)
  rw [pointed, List.contains_eq_mem, decide_eq_false hcomma, Bool.false_and,
    if_neg Bool.false_ne_true, map_commaToPoint hcomma]

/-- **A limit is read as the same amount**, digit by digit. -/
theorem amountOf?_eq_of_threshold? (h : threshold? v = some x) : amountOf? v = some x := by
  obtain ⟨front, core, back, hv, hfront, hback, hread, hcore⟩ := exists_framed_of_threshold? h
  rw [amountOf?, readAmount, hv, amountText_framed_number hfront hback hcore, pointed_number hcore,
    hread]

/-! ## Rules on one amount -/

/-- The rule is active and asks for the amounts from the limit `v` to itself. -/
structure Rule.AsksExactly (r : Rule) (v : String) : Prop where
  active : r.active = true
  condition : r.condition = .amountRange
  value : r.value = v ++ "," ++ v

/-- **A rule on one amount** is among the matches of every transaction with it. -/
theorem Rule.AsksExactly.exists_match {rs : List Rule} {r : Rule} (h : r.AsksExactly v)
    (hx : threshold? v = some x) (hr : r ∈ rs) (d : String) :
    ∃ m ∈ findMatches rs ⟨d, x⟩, m.rule = r := by
  refine exists_findMatches_of_fires hr ?_
  rw [Rule.fires, h.active, Bool.true_and, Rule.matches, h.condition, h.value]
  exact (holds_amountRange_iff_value_le hx hx ⟨d, x⟩).mpr ⟨le_rfl, le_rfl⟩

/-! ## Statements -/

theorem not_allBlank_of_threshold? (h : threshold? v = some x) : ¬ allBlank v = true := fun hblank =>
  Decimal.ne_nil_of_read h (trimList_eq_nil_iff.mpr (List.all_eq_true.mp hblank))

/-- **A record whose amount is a limit** is not blank, and has a row. -/
theorem exists_row_of_cell (rs : List Rule) {delimiter : UInt8} {bytes : List UInt8}
    {records body : List Csv.Record} {c : Statement.Columns} (hx : threshold? v = some x)
    (hread : Csv.read delimiter bytes = .ok records)
    (hbody : Statement.body? records = some (c, body)) :
    ∃ rows, Statement.evaluate rs delimiter bytes = .ok rows ∧
      ∀ record ∈ body, record.fields.getD c.amount "" = v → ∃ row ∈ rows,
        Statement.IsRowOf rs c.description c.amount record row := by
  refine ⟨(body.filter Statement.hasText).map (Statement.row rs c), ?_, fun record hrecord hcell =>
    ⟨_, List.mem_map_of_mem (List.mem_filter.mpr ⟨hrecord, ?_⟩), Statement.isRowOf_row rs c record⟩⟩
  · simp only [Statement.evaluate, hread, hbody]
  · have hvisible := not_allBlank_of_threshold? hx
    have hmem : v ∈ record.fields := by
      rw [List.getD_eq_getElem?_getD] at hcell
      cases hfield : record.fields[c.amount]? with
      | none =>
        -- a missing cell counts as the empty text
        rw [hfield, Option.getD_none] at hcell
        exact absurd (hcell ▸ rfl) hvisible
      | some f =>
        rw [hfield, Option.getD_some] at hcell
        exact hcell ▸ List.mem_of_getElem? hfield
    rw [Statement.hasText, Bool.not_eq_true', ← Bool.not_eq_true, List.all_eq_true]
    exact fun hall => hvisible (hall v hmem)

/-! ## Command lines -/

section

open CommandLine

/-- The option of an amount. -/
def amountOption : Parameter := hyphenOption "amount" .amount

theorem read_amountOption (hx : amountOf? v = some x) : amountOption.read v = .ok (.amount x) := by
  simp only [Parameter.read, amountOption, hyphenOption, ValueKind.read, hx]
  rfl

/-- **The amount of a command** is that of the text behind the option. -/
theorem amount?_of_hasOption {leaf : Leaf} {args : List String} {g : Given} {c : Command}
    (hx : amountOf? v = some x) (hargs : leaf.HasOption "amount" v args)
    (hleaf : leaf.level.named? "amount" = some amountOption) (h : leaf.read args = .ok (g, c)) :
    g.amount? "amount" = some x ∧ leaf.command? g = some c := by
  obtain ⟨hlookup, hcommand⟩ := Leaf.lookup_of_hasOption (p := amountOption) hargs (by decide)
    (by decide) hleaf rfl (read_amountOption hx) h
  have hvalue : g.lookup "amount" = some [.amount x] := hlookup
  refine ⟨?_, hcommand⟩
  rw [Given.amount?, Given.value?, hvalue]
  rfl

theorem settle_amountOption (hx : amountOf? v = some x) :
    Progress.settle { pending := some (amountOption, [v]), stopped := true } =
      .ok { given := [("amount", [.amount x])], stopped := true } := by
  have hvalues : [v].mapM amountOption.read = .ok [.amount x] := by simp [read_amountOption hx]
  exact Progress.give_of_read (List.cons_ne_nil v []) rfl hvalues

/-- **Evaluating an amount** and a description on the command line. -/
theorem read_evaluate_amount (hx : amountOf? v = some x) (d : String) :
    Invocation.read ["evaluate", "--amount", v, "--", d] =
      .ok ⟨none, none, .evaluate ⟨d, x⟩ false⟩ := by
  have hstopped : evaluate.level.read {} ["--amount", v, "--"] =
      .ok ({ pending := some (amountOption, [v]), stopped := true }, none) := rfl
  have hplace : Progress.step evaluate.level { pending := some (amountOption, [v]), stopped := true } d =
      .ok { given := [("amount", [.amount x])], pending := some (position "description" .text, [d]),
            stopped := true, filled := 1 } := by
    change (Progress.settle _).map _ = _
    rw [settle_amountOption hx]
    rfl
  have hlevel := Level.read_append [d] hstopped
  rw [Level.read, hplace] at hlevel
  have hleaf : evaluate.read ["--amount", v, "--", d] =
      .ok ([("amount", [.amount x]), ("description", [.text d])], .evaluate ⟨d, x⟩ false) := by
    change (evaluate.level.read {} (["--amount", v, "--"] ++ [d]) >>= _) = _
    rw [hlevel]
    rfl
  change (evaluate.read ["--amount", v, "--", d] >>= _) = _
  rw [hleaf]
  rfl

end

/-! ## All amounts -/

/-- **Limits are amounts.** Every text that is a limit of a condition is read as an amount, and as the
same number with the same scale. So a rule on the amounts from it to itself matches every transaction
with that amount. It matches each record of a statement in which the text stands as the amount, for
none of them is blank or unreadable. And a command that is given the text as an amount has that amount
in its transaction, wherever the option stands and whatever stands around it. -/
theorem limits_are_amounts (hx : threshold? v = some x) :
    amountOf? v = some x ∧
    (∀ rs, ∀ r ∈ rs, r.AsksExactly v → ∀ d, ∃ m ∈ findMatches rs ⟨d, x⟩, m.rule = r) ∧
    (∀ rs delimiter bytes records c body, Csv.read delimiter bytes = .ok records →
      Statement.body? records = some (c, body) →
      ∃ rows, Statement.evaluate rs delimiter bytes = .ok rows ∧
        ∀ record ∈ body, record.fields.getD c.amount "" = v → ∃ row ∈ rows,
          let ms := findMatches rs ⟨row.description, x⟩
          row.line = record.line ∧ row.amount = .ok x ∧ row.matchCount = ms.length ∧
            row.suggestions = suggestions (ms.map Match.evaluation) ∧
            ∀ r ∈ rs, r.AsksExactly v → ∃ m ∈ ms, m.rule = r) ∧
    (∀ d, Invocation.read ["evaluate", "--amount", v, "--", d] =
      .ok ⟨none, none, .evaluate ⟨d, x⟩ false⟩) ∧
    (∀ args g c, CommandLine.evaluate.HasOption "amount" v args →
      CommandLine.evaluate.read args = .ok (g, c) → ∃ d record, c = .evaluate ⟨d, x⟩ record) ∧
    ∀ args g c, CommandLine.test.HasOption "amount" v args →
      CommandLine.test.read args = .ok (g, c) → ∃ k w d, c = .test k w ⟨d, x⟩ := by
  have hamount := amountOf?_eq_of_threshold? hx
  refine ⟨hamount, fun rs r hr hasks d => hasks.exists_match hx hr d, ?_,
    read_evaluate_amount hamount, fun args g c hargs h => ?_, fun args g c hargs h => ?_⟩
  · intro rs delimiter bytes records c body hread hbody
    obtain ⟨rows, hrows, hcells⟩ := exists_row_of_cell rs hx hread hbody
    refine ⟨rows, hrows, fun record hrecord hcell => ?_⟩
    obtain ⟨row, hrow, hmade⟩ := hcells record hrecord hcell
    obtain ⟨hrowx, hcount, hsuggestions⟩ := hmade.readable x (hcell ▸ hamount)
    exact ⟨row, hrow, hmade.line, hrowx, hcount, hsuggestions, fun r hr hasks =>
      hasks.exists_match hx hr row.description⟩
  · obtain ⟨hgiven, hcommand⟩ := amount?_of_hasOption hamount hargs rfl h
    simp only [CommandLine.evaluate, hgiven, Option.bind_eq_bind, Option.bind_some,
      Option.bind_eq_some_iff, Option.some.injEq] at hcommand
    obtain ⟨d, -, rfl⟩ := hcommand
    exact ⟨d, _, rfl⟩
  · obtain ⟨hgiven, hcommand⟩ := amount?_of_hasOption hamount hargs rfl h
    simp only [CommandLine.test, hgiven, Option.getD_some, Option.bind_eq_bind,
      Option.bind_eq_some_iff, Option.some.injEq] at hcommand
    obtain ⟨k, -, w, -, rfl⟩ := hcommand
    exact ⟨k, w, _, rfl⟩

/-- A limit with blanks, underscores and an exponent, minus 125. -/
def exponentLimit : String := "\u00a0-1_2.5_e1 "

/-- A rule on that amount. -/
def exponentRule : Rule :=
  ⟨1, "rent", 0, true, .amountRange, exponentLimit ++ "," ++ exponentLimit, .suggestAccount, "5010"⟩

/-- A statement with that amount. -/
def exponentStatement : List UInt8 :=
  Text.Utf8.encode "text;belopp\nRent;\u00a0-1_2.5_e1 \n".toList

theorem limits_are_amounts_exponentLimit :
    threshold? exponentLimit = some ⟨true, 125, 0, by decide, by decide⟩ ∧
      amountOf? exponentLimit = some ⟨true, 125, 0, by decide, by decide⟩ ∧
      (∃ rows, Statement.evaluate [exponentRule] 59 exponentStatement = .ok rows ∧
        ∃ row ∈ rows, 0 < row.matchCount) ∧
      Invocation.read ["evaluate", "--amount", exponentLimit, "--", "Rent"] =
        .ok ⟨none, none, .evaluate ⟨"Rent", ⟨true, 125, 0, by decide, by decide⟩⟩ false⟩ := by
  have hx : threshold? exponentLimit = some ⟨true, 125, 0, by decide, by decide⟩ := by decide
  obtain ⟨hamount, -, hstatement, hline, -⟩ := limits_are_amounts hx
  have hread : Csv.read 59 exponentStatement =
      .ok [⟨1, ["text", "belopp"]⟩, ⟨2, ["Rent", exponentLimit]⟩] := rfl
  have hbody : Statement.body? [⟨1, ["text", "belopp"]⟩, ⟨2, ["Rent", exponentLimit]⟩] =
      some (⟨0, 1⟩, [⟨2, ["Rent", exponentLimit]⟩]) := by decide
  have hasks : exponentRule.AsksExactly exponentLimit := ⟨rfl, rfl, rfl⟩
  obtain ⟨rows, hrows, hcells⟩ := hstatement [exponentRule] 59 _ _ _ _ hread hbody
  obtain ⟨row, hrow, -, -, hcount, -, hmatches⟩ := hcells _ (List.mem_singleton_self _) rfl
  obtain ⟨m, hm, -⟩ := hmatches _ (List.mem_singleton_self _) hasks
  refine ⟨hx, hamount, ⟨rows, hrows, row, hrow, ?_⟩, hline "Rent"⟩
  rw [hcount]
  exact List.length_pos_of_mem hm

end PostingRules
