import PostingRules.Proofs.Amount.Number

/-!
# Which texts are amounts

* `Without`, `IsCleared`, **`isCleared_iff`**: a text without blanks, quotes and units, said without
  the reader;
* `lastSeparator?`, `ungrouped`, `decimals`, **`pointed_eq`**: the decimal mark is the last separator,
  and separators of the other kind do not count;
* `IsAmount`: a sign or none, digits, and the mark at most once;
* `exists_pointed_iff`, `parts_of_pointed`: what becomes of it when the mark is a point;
* **`amountOf?_of_isAmount`**: exactly these texts are amounts, and which ones.
-/

namespace PostingRules

open PostingRules.Text

/-! ## Units at the end -/

/-- The text `ds` is the text `cs` without the unit that stands at its end any number of times. -/
def Without (unit cs ds : List Char) : Prop :=
  (∃ k, cs = ds ++ (List.replicate k unit).flatten) ∧ ¬ unit <:+ ds

/-- **The text `c` is what counts of a text**: blanks and double quotes are left out, then every `kr`
and then every `SEK` at the end. -/
def IsCleared (raw c : List Char) : Prop :=
  ∃ mid, Without ['k', 'r'] (raw.filter isKept) mid ∧ Without ['S', 'E', 'K'] mid c

/-- The function drops every unit at the front of a text that is read backwards. -/
structure Drops (unit : List Char) (f : List Char → List Char) : Prop where
  again : ∀ cs, f (unit.reverse ++ cs) = f cs
  stop : ∀ cs, ¬ unit.reverse <+: cs → f cs = cs

theorem Drops.without_iff {unit cs ds : List Char} {f : List Char → List Char} (h : Drops unit f)
    (hne : unit ≠ []) : Without unit cs ds ↔ ds = (f cs.reverse).reverse := by
  constructor
  · rintro ⟨⟨k, rfl⟩, hend⟩
    induction k with
    | zero =>
      rw [List.replicate_zero, List.flatten_nil, List.append_nil,
        h.stop _ (by rwa [List.reverse_prefix]), List.reverse_reverse]
    | succ k ih =>
      rw [List.replicate_succ', List.flatten_append, List.flatten_singleton, ← List.append_assoc,
        List.reverse_append, h.again]
      exact ih
  · rintro rfl
    induction hn : cs.length using Nat.strong_induction_on generalizing cs with
    | h n ih =>
      by_cases hend : unit <:+ cs
      · obtain ⟨front, rfl⟩ := hend
        have hpos := List.length_pos_iff.mpr hne
        rw [List.length_append] at hn
        obtain ⟨⟨k, hk⟩, hstop⟩ := ih front.length (by omega) rfl
        rw [List.reverse_append, h.again]
        refine ⟨⟨k + 1, ?_⟩, hstop⟩
        rw [List.replicate_succ', List.flatten_append, List.flatten_singleton, ← List.append_assoc,
          ← hk]
      · rw [h.stop _ (by rwa [List.reverse_prefix]), List.reverse_reverse]
        exact ⟨⟨0, by simp⟩, hend⟩

theorem drops_dropKr : Drops ['k', 'r'] dropKr where
  again _ := rfl
  stop cs hcs := by
    unfold dropKr
    split
    · exact absurd ⟨_, rfl⟩ hcs
    · rfl

theorem drops_dropSek : Drops ['S', 'E', 'K'] dropSek where
  again _ := rfl
  stop cs hcs := by
    unfold dropSek
    split
    · exact absurd ⟨_, rfl⟩ hcs
    · rfl

/-- **What counts of a text** is the text that the reader looks at, so every text has just one. -/
theorem isCleared_iff {raw c : List Char} : IsCleared raw c ↔ c = amountText raw := by
  unfold IsCleared
  simp only [drops_dropKr.without_iff (List.cons_ne_nil _ _),
    drops_dropSek.without_iff (List.cons_ne_nil _ _), exists_eq_left, List.reverse_reverse]
  rfl

/-! ## The decimal mark -/

/-- The last separator of a text. -/
def lastSeparator? (c : List Char) : Option Char := c.reverse.find? isSeparator

/-- The text without the separators that are of another kind than the last one. -/
def ungrouped (c : List Char) : List Char :=
  match lastSeparator? c with
  | none => c
  | some m => c.filter fun x => x = m || !isSeparator x

/-- How many digits stand behind the last separator; none without one. -/
def decimals (c : List Char) : ℕ :=
  if lastSeparator? c = none then 0
  else (c.reverse.takeWhile (!isSeparator ·)).countP Char.isDigit

/-- **The text is an amount**: without the separators that only group its digits it is a sign or none
in front of digits, with one separator among them or none. -/
def IsAmount (c : List Char) (negative : Bool) : Prop :=
  ∃ sgn ∈ signs negative, ∃ body, ungrouped c = sgn ++ body ∧ IsMarked body ∧ HasDigit body

instance (c : List Char) (negative : Bool) : Decidable (IsAmount c negative) :=
  decidable_of_iff (∃ sgn ∈ signs negative, sgn <+: ungrouped c ∧
    IsMarked ((ungrouped c).drop sgn.length) ∧ HasDigit ((ungrouped c).drop sgn.length)) <| by
    refine exists_congr fun sgn => and_congr_right fun _ => ?_
    constructor
    · rintro ⟨⟨body, hsplit⟩, h⟩
      rw [← hsplit, List.drop_left] at h
      exact ⟨body, hsplit.symm, h⟩
    · rintro ⟨body, hsplit, h⟩
      rw [hsplit, List.drop_left]
      exact ⟨⟨body, rfl⟩, h⟩

variable {c : List Char}

theorem lastSeparator?_eq_none_iff : lastSeparator? c = none ↔ ∀ x ∈ c, isSeparator x = false := by
  rw [lastSeparator?, List.find?_eq_none]
  simp

theorem exists_split_of_lastSeparator? {m : Char} (h : lastSeparator? c = some m) :
    ∃ before after, c = before ++ m :: after ∧ isSeparator m = true ∧
      ∀ x ∈ after, isSeparator x = false := by
  obtain ⟨hm, after, before, hsplit, hafter⟩ := List.find?_eq_some_iff_append.mp h
  refine ⟨before.reverse, after.reverse, ?_, hm, fun x hx => ?_⟩
  · rw [← List.reverse_reverse c, hsplit]
    simp
  · simpa using hafter x (List.mem_reverse.mp hx)

theorem isSeparator_iff {x : Char} : isSeparator x = true ↔ x = ',' ∨ x = '.' := by
  simp [isSeparator]

theorem mem_of_lastSeparator? {m : Char} (h : lastSeparator? c = some m) :
    m ∈ c ∧ (m = ',' ∨ m = '.') :=
  ⟨List.mem_reverse.mp (List.mem_of_find?_eq_some h), isSeparator_iff.mp (List.find?_some h)⟩

/-- **The decimal mark is the last separator**, and it becomes a point. -/
theorem pointed_eq (c : List Char) : pointed c = (ungrouped c).map commaToPoint := by
  unfold pointed ungrouped
  cases h : lastSeparator? c with
  | none =>
    have hcomma : ¬ c.contains ',' = true := fun hmem =>
      absurd (lastSeparator?_eq_none_iff.mp h ',' (List.contains_iff_mem.mp hmem)) (by decide)
    rw [Bool.eq_false_iff.mpr hcomma, Bool.false_and, if_neg Bool.false_ne_true]
  | some m =>
    obtain ⟨hmem, hm⟩ := mem_of_lastSeparator? h
    -- the other kind is left out, if it is there at all
    have hkept : ∀ other, isSeparator other = true → other ≠ m →
        (c.filter fun x => x = m || !isSeparator x) = c.filter (· != other) := by
      intro other hother hne
      refine List.filter_congr fun x _ => ?_
      rw [Bool.eq_iff_iff, Bool.or_eq_true, decide_eq_true_eq, Bool.not_eq_true',
        ← Bool.not_eq_true, isSeparator_iff, bne_iff_ne]
      rcases hm with rfl | rfl <;> rcases isSeparator_iff.mp hother with rfl | rfl <;> grind
    have habsent : ∀ other, c.contains other = false → c.filter (· != other) = c := by
      intro other hother
      refine List.filter_eq_self.mpr fun x hx => ?_
      have : x ≠ other := by
        rintro rfl
        rw [List.contains_iff_mem.mpr hx] at hother
        cases hother
      simpa using this
    have hcontains := List.contains_iff_mem.mpr hmem
    rw [lastSeparator?] at h
    rcases hm with rfl | rfl
    · simp only [hkept '.' rfl (by decide), h, hcontains, Bool.true_and, if_true]
      split
      · rfl
      · next hpoint => rw [habsent '.' (by simpa using hpoint)]
    · have hnocomma : (c.filter (· != ',')).map commaToPoint = c.filter (· != ',') :=
        map_commaToPoint fun hx => absurd (List.mem_filter.mp hx).2 (by decide)
      simp only [hkept ',' rfl (by decide), h, hcontains, Bool.and_true]
      split
      · rw [hnocomma]
        rfl
      · next hcomma => rw [habsent ',' (by simpa using hcomma)]

theorem commaToPoint_of_isDigit {x : Char} (h : x.isDigit = true) : commaToPoint x = x := by
  refine if_neg ?_
  rintro rfl
  exact absurd h (by decide)

theorem isDigit_commaToPoint (x : Char) : (commaToPoint x).isDigit = x.isDigit := by
  unfold commaToPoint
  split
  · next h => rw [h]; rfl
  · rfl

theorem isSeparator_commaToPoint (x : Char) : isSeparator (commaToPoint x) = isSeparator x := by
  unfold commaToPoint
  split
  · next h => rw [h]; rfl
  · rfl

theorem isMarked_map_commaToPoint {body : List Char} :
    IsMarked (body.map commaToPoint) ↔ IsMarked body := by
  have hsep : isSeparator ∘ commaToPoint = isSeparator := funext isSeparator_commaToPoint
  simp only [IsMarked, List.forall_mem_map, isDigit_commaToPoint, isSeparator_commaToPoint,
    List.countP_map, hsep]

theorem hasDigit_map_commaToPoint {body : List Char} :
    HasDigit (body.map commaToPoint) ↔ HasDigit body := by
  simp [HasDigit, isDigit_commaToPoint]

theorem filter_isDigit_map_commaToPoint (cs : List Char) :
    (cs.map commaToPoint).filter Char.isDigit = cs.filter Char.isDigit := by
  have hdigit : Char.isDigit ∘ commaToPoint = Char.isDigit := funext isDigit_commaToPoint
  rw [List.filter_map, hdigit]
  refine (List.map_congr_left fun x hx => ?_).trans (List.map_id _)
  exact commaToPoint_of_isDigit (List.mem_filter.mp hx).2

/-- Only separators are left out. -/
theorem filter_isDigit_ungrouped (c : List Char) :
    (ungrouped c).filter Char.isDigit = c.filter Char.isDigit := by
  unfold ungrouped
  split
  · rfl
  · rw [List.filter_filter]
    refine List.filter_congr fun x _ => ?_
    by_cases hx : x.isDigit = true
    · simp [hx, isSeparator_eq_false hx]
    · simp [hx]

/-- A sign is neither a digit nor a separator. -/
theorem of_mem_signs {negative : Bool} {sgn : List Char} (h : sgn ∈ signs negative) :
    sgn.map commaToPoint = sgn ∧ sgn.filter Char.isDigit = [] ∧ sgn.countP isSeparator = 0 := by
  cases negative with
  | true =>
    obtain rfl : sgn = ['-'] := by simpa [signs] using h
    decide
  | false =>
    obtain rfl | rfl : sgn = [] ∨ sgn = ['+'] := by simpa [signs] using h
    · decide
    · decide

theorem map_eq_of_mem_signs {negative : Bool} {sgn cs : List Char} (h : sgn ∈ signs negative)
    (hmap : cs.map commaToPoint = sgn) : cs = sgn := by
  have hid : ∀ x, commaToPoint x = '+' ∨ commaToPoint x = '-' → commaToPoint x = x := by
    intro x hx
    unfold commaToPoint at hx ⊢
    split
    · next hcomma =>
      rw [if_pos hcomma] at hx
      exact absurd hx (by decide)
    · rfl
  subst hmap
  refine (List.map_id cs).symm.trans (List.map_congr_left fun x hx => (hid x ?_).symm)
  have hmem := List.mem_map_of_mem (f := commaToPoint) hx
  cases negative with
  | true =>
    rw [show cs.map commaToPoint = ['-'] by simpa [signs] using h, List.mem_singleton] at hmem
    exact .inr hmem
  | false =>
    obtain hnil | hplus : cs.map commaToPoint = [] ∨ cs.map commaToPoint = ['+'] := by
      simpa [signs] using h
    · rw [hnil] at hmem
      cases hmem
    · rw [hplus, List.mem_singleton] at hmem
      exact .inl hmem

theorem pointDigits_append {front back : List Char} (h : ∀ x ∈ front, isSeparator x = false) :
    pointDigits (front ++ back) = pointDigits back := by
  have hfront : ∀ x ∈ front, decide (x ≠ '.') = true := by
    intro x hx
    have hne : x ≠ '.' := by
      rintro rfl
      exact absurd (h _ hx) (by decide)
    exact decide_eq_true hne
  rw [pointDigits, List.dropWhile_append_of_pos hfront, pointDigits]

/-- The digits behind the mark are those behind the point. -/
theorem pointDigits_pointed (h : (ungrouped c).countP isSeparator ≤ 1) :
    pointDigits (pointed c) = decimals c := by
  rw [pointed_eq]
  cases hlast : lastSeparator? c with
  | none =>
    have hnone := lastSeparator?_eq_none_iff.mp hlast
    have hself : ungrouped c = c := by rw [ungrouped, hlast]
    have hmap : ∀ x ∈ c.map commaToPoint, isSeparator x = false := by
      intro x hx
      obtain ⟨y, hy, rfl⟩ := List.mem_map.mp hx
      rw [isSeparator_commaToPoint]
      exact hnone y hy
    rw [hself, decimals, if_pos hlast, ← List.append_nil (c.map commaToPoint),
      pointDigits_append hmap]
    rfl
  | some m =>
    obtain ⟨before, after, rfl, hm, hafter⟩ := exists_split_of_lastSeparator? hlast
    have hkept : after.filter (fun x => x = m || !isSeparator x) = after := by
      refine List.filter_eq_self.mpr fun x hx => ?_
      simp [hafter x hx]
    have hungrouped : ungrouped (before ++ m :: after) =
        before.filter (fun x => x = m || !isSeparator x) ++ m :: after := by
      simp only [ungrouped, hlast]
      rw [List.filter_append, List.filter_cons_of_pos (by simp), hkept]
    obtain ⟨front, hfront⟩ : ∃ front, before.filter (fun x => x = m || !isSeparator x) = front :=
      ⟨_, rfl⟩
    rw [hungrouped, hfront] at h ⊢
    -- the mark is the only separator that is left
    have hnone : ∀ x ∈ front, isSeparator x = false := by
      rw [List.countP_append, List.countP_cons_of_pos hm] at h
      have hzero : front.countP isSeparator = 0 := by omega
      simpa using List.countP_eq_zero.mp hzero
    have hmap : ∀ x ∈ front.map commaToPoint, isSeparator x = false := by
      intro x hx
      obtain ⟨y, hy, rfl⟩ := List.mem_map.mp hx
      rw [isSeparator_commaToPoint]
      exact hnone y hy
    have hpoint : commaToPoint m = '.' := by
      rcases isSeparator_iff.mp hm with rfl | rfl <;> rfl
    have hbehind : pointDigits ('.' :: after.map commaToPoint) = after.countP Char.isDigit := by
      have hdrop : ('.' :: after.map commaToPoint).dropWhile (· ≠ '.') =
          '.' :: after.map commaToPoint := rfl
      have hdigit : Char.isDigit ∘ commaToPoint = Char.isDigit := funext isDigit_commaToPoint
      rw [pointDigits, hdrop, List.countP_cons_of_neg (by decide), List.countP_map, hdigit]
    have htake : (before ++ m :: after).reverse.takeWhile (!isSeparator ·) = after.reverse := by
      rw [List.reverse_append, List.reverse_cons, List.append_assoc,
        List.takeWhile_append_of_pos fun x hx => by simp [hafter x (List.mem_reverse.mp hx)]]
      simp [hm]
    rw [List.map_append, List.map_cons, pointDigits_append hmap, hpoint, hbehind, decimals, hlast,
      if_neg (by simp), htake, List.countP_reverse]

/-! ## Amounts -/

theorem mem_ungrouped {x : Char} (h : x ∈ ungrouped c) : x ∈ c := by
  unfold ungrouped at h
  split at h
  · exact h
  · exact List.mem_of_mem_filter h

theorem notMem_pointed {x : Char} (hx : x ≠ '.') (h : x ∉ c) : x ∉ pointed c := by
  rw [pointed_eq]
  intro hmem
  obtain ⟨y, hy, rfl⟩ := List.mem_map.mp hmem
  unfold commaToPoint at h hx
  split at h
  · next hcomma => exact hx (if_pos hcomma)
  · exact h (mem_ungrouped hy)

theorem comma_notMem_pointed (c : List Char) : ',' ∉ pointed c := by
  rw [pointed_eq]
  intro hmem
  obtain ⟨y, -, hy⟩ := List.mem_map.mp hmem
  unfold commaToPoint at hy
  split at hy
  · exact absurd hy (by decide)
  · next hne => exact hne hy

theorem filter_isDigit_pointed (c : List Char) :
    (pointed c).filter Char.isDigit = c.filter Char.isDigit := by
  rw [pointed_eq, filter_isDigit_map_commaToPoint, filter_isDigit_ungrouped]

/-- A text with its mark as a point is a sign and digits just if it is an amount. -/
theorem exists_pointed_iff {negative : Bool} : (∃ sgn ∈ signs negative, ∃ body,
    pointed c = sgn ++ body ∧ IsMarked body ∧ HasDigit body) ↔ IsAmount c negative := by
  rw [pointed_eq, IsAmount]
  refine exists_congr fun sgn => and_congr_right fun hsgn => ?_
  constructor
  · rintro ⟨_, hsplit, hmarked, hdigit⟩
    obtain ⟨front, back, hungrouped, hfront, rfl⟩ := List.map_eq_append_iff.mp hsplit
    obtain rfl := map_eq_of_mem_signs hsgn hfront
    exact ⟨back, hungrouped, isMarked_map_commaToPoint.mp hmarked,
      hasDigit_map_commaToPoint.mp hdigit⟩
  · rintro ⟨body, hungrouped, hmarked, hdigit⟩
    refine ⟨body.map commaToPoint, ?_, isMarked_map_commaToPoint.mpr hmarked,
      hasDigit_map_commaToPoint.mpr hdigit⟩
    rw [hungrouped, List.map_append, (of_mem_signs hsgn).1]

/-- The parts of the number behind the sign are those of the whole text. -/
theorem parts_of_pointed {negative : Bool} {sgn body : List Char} (hsgn : sgn ∈ signs negative)
    (hsplit : pointed c = sgn ++ body) (hmarked : IsMarked body) :
    digitsValue body = digitsValue c ∧ pointDigits body = decimals c := by
  obtain ⟨-, hdigits, hseparators⟩ := of_mem_signs hsgn
  have hcount : (ungrouped c).countP isSeparator ≤ 1 := by
    have hmap : (pointed c).countP isSeparator = (ungrouped c).countP isSeparator := by
      have hsep : isSeparator ∘ commaToPoint = isSeparator := funext isSeparator_commaToPoint
      rw [pointed_eq, List.countP_map, hsep]
    rw [← hmap, hsplit, List.countP_append, hseparators, Nat.zero_add]
    exact hmarked.2
  constructor
  · rw [digitsValue, digitsValue, ← filter_isDigit_pointed c, hsplit, List.filter_append, hdigits,
      List.nil_append]
  · have hnone : ∀ x ∈ sgn, isSeparator x = false := by
      simpa using List.countP_eq_zero.mp hseparators
    rw [← pointDigits_pointed hcount, hsplit, pointDigits_append hnone]

theorem read_pointed_eq_some_iff {d : Decimal} (hplain : '_' ∉ c ∧ 'e' ∉ c ∧ 'E' ∉ c)
    (h : c.countP Char.isDigit ≤ 28) : Decimal.read (pointed c) = some d ↔
      ∃ negative, IsAmount c negative ∧ d.HasParts negative (digitsValue c) (decimals c) := by
  obtain ⟨hline, he, hE⟩ := hplain
  have hcount : (pointed c).countP Char.isDigit ≤ 28 := by
    rwa [List.countP_eq_length_filter, filter_isDigit_pointed, ← List.countP_eq_length_filter]
  rw [read_eq_readPlain (notMem_pointed (by decide) he) (notMem_pointed (by decide) hE),
    readPlain_eq_some_iff (notMem_pointed (by decide) hline) (comma_notMem_pointed c) hcount]
  simp only [← exists_pointed_iff]
  refine exists_congr fun negative => ?_
  constructor
  · rintro ⟨sgn, hsgn, body, hsplit, ⟨hmarked, hdigit⟩, hparts⟩
    obtain ⟨hvalue, hdecimals⟩ := parts_of_pointed hsgn hsplit hmarked
    exact ⟨⟨sgn, hsgn, body, hsplit, hmarked, hdigit⟩, hvalue ▸ hdecimals ▸ hparts⟩
  · rintro ⟨⟨sgn, hsgn, body, hsplit, hmarked, hdigit⟩, hparts⟩
    obtain ⟨hvalue, hdecimals⟩ := parts_of_pointed hsgn hsplit hmarked
    exact ⟨sgn, hsgn, body, hsplit, ⟨hmarked, hdigit⟩, hvalue.symm ▸ hdecimals.symm ▸ hparts⟩

theorem decimals_le (h : c.countP Char.isDigit ≤ 28) : decimals c ≤ maxScale := by
  unfold decimals
  split
  · exact Nat.zero_le _
  · refine ((List.takeWhile_sublist _).countP_le).trans ?_
    rwa [List.countP_reverse]

/-- **Which texts are amounts, and which ones.** What counts of a text is what is left of it without
blanks, double quotes and the units at its end. With no more than 28 digits and none of the characters
`_`, `e` and `E` it is read just if it is an amount: a sign or none in front of digits with at most one
separator among them, those of the other kind than the last one left out. The amount is that of all
digits as one number, divided by ten for each digit behind the last separator. -/
theorem amountOf?_of_isAmount {raw : String} {c : List Char} (hc : IsCleared raw.toList c)
    (h : c.countP Char.isDigit ≤ 28) (hplain : '_' ∉ c ∧ 'e' ∉ c ∧ 'E' ∉ c) :
    (∀ negative, IsAmount c negative → ∃ d, amountOf? raw = some d ∧
      d.HasParts negative (digitsValue c) (decimals c) ∧
      d.value = ((if negative then -(digitsValue c : ℤ) else digitsValue c : ℤ) : ℚ) /
        10 ^ decimals c) ∧
    ((∀ negative, ¬ IsAmount c negative) → amountOf? raw = none) := by
  have hread : amountOf? raw = Decimal.read (pointed c) := by
    rw [amountOf?, readAmount, ← isCleared_iff.mp hc]
  constructor
  · intro negative hamount
    obtain ⟨d, hparts⟩ := Decimal.exists_hasParts negative (digitsValue_le h) (decimals_le h)
    refine ⟨d, ?_, hparts, hparts.value⟩
    rw [hread]
    exact (read_pointed_eq_some_iff hplain h).mpr ⟨negative, hamount, hparts⟩
  · intro hnone
    rw [hread, Option.eq_none_iff_forall_ne_some]
    intro d hd
    obtain ⟨negative, hamount, -⟩ := (read_pointed_eq_some_iff hplain h).mp hd
    exact hnone negative hamount

theorem amountOf?_of_isAmount_grouped :
    (IsCleared "\"-12.345.678,90 SEK kr kr\"".toList "-12.345.678,90".toList ∧
      IsAmount "-12.345.678,90".toList true ∧
      ∃ d, amountOf? "\"-12.345.678,90 SEK kr kr\"" = some d ∧ d.HasParts true 1234567890 2) ∧
    (IsCleared "1,234,5 kr".toList "1,234,5".toList ∧
      (∀ negative, ¬ IsAmount "1,234,5".toList negative) ∧ amountOf? "1,234,5 kr" = none) := by
  have hgrouped : IsCleared "\"-12.345.678,90 SEK kr kr\"".toList "-12.345.678,90".toList :=
    isCleared_iff.mpr (by decide)
  have htwice : IsCleared "1,234,5 kr".toList "1,234,5".toList := isCleared_iff.mpr (by decide)
  have hamount : IsAmount "-12.345.678,90".toList true := by decide
  have hnone : ∀ negative, ¬ IsAmount "1,234,5".toList negative := by decide
  obtain ⟨d, hd, hparts, -⟩ :=
    (amountOf?_of_isAmount hgrouped (by decide) (by decide)).1 true hamount
  have hvalue : digitsValue "-12.345.678,90".toList = 1234567890 ∧
      decimals "-12.345.678,90".toList = 2 := by decide
  rw [hvalue.1, hvalue.2] at hparts
  exact ⟨⟨hgrouped, hamount, d, hd, hparts⟩, htwice, hnone,
    (amountOf?_of_isAmount htwice (by decide) (by decide)).2 hnone⟩

end PostingRules
