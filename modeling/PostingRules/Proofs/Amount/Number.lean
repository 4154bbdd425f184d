import PostingRules.Proofs.Amount
import Mathlib.Data.List.TakeWhile

/-!
# Which texts are plain numbers

A plain number has no exponent and no underscores, and few enough digits to be read in full.

* `digitsValue`, `pointDigits`: the number that the digits of a text make, and how many of them stand
  behind the point;
* `IsMarked`, `HasDigit`, `signs`: the shape of a plain number;
* `Decimal.HasParts`, `make?_eq_some_iff`: a decimal number by its parts;
* `scan_behind_point`, **`scan_before_point`**: digits are read as the number that they make;
* **`readPlain_eq_some_iff`**: a sign or none in front of them.
-/

namespace PostingRules

open PostingRules.Text

/-! ## Shapes -/

/-- How many digits stand behind the first point. -/
def pointDigits (cs : List Char) : ℕ := (cs.dropWhile (· ≠ '.')).countP Char.isDigit

/-- The number that all digits of a text make, in their order. -/
def digitsValue (cs : List Char) : ℕ := Nat.ofDigitChars 10 (cs.filter Char.isDigit) 0

/-- The text is digits, with at most one separator before, behind or between them. -/
def IsMarked (cs : List Char) : Prop :=
  (∀ c ∈ cs, c.isDigit = true ∨ isSeparator c = true) ∧ cs.countP isSeparator ≤ 1

instance (cs : List Char) : Decidable (IsMarked cs) :=
  @instDecidableAnd _ _ (List.decidableBAll _ cs) (Nat.decLe _ 1)

/-- The text has a digit. -/
def HasDigit (cs : List Char) : Prop := ∃ c ∈ cs, c.isDigit = true

instance (cs : List Char) : Decidable (HasDigit cs) := List.decidableBEx _ cs

/-- The texts of a sign. A number that is not negative needs none. -/
def signs : Bool → List (List Char)
  | false => [[], ['+']]
  | true => [['-']]

theorem le_maxMantissa {m a : ℕ} (hm : m < 10 ^ a) (ha : a ≤ 28) : m ≤ maxMantissa :=
  hm.le.trans ((Nat.pow_le_pow_right (by decide) ha).trans (by decide))

theorem isSeparator_eq_false {c : Char} (h : c.isDigit = true) : isSeparator c = false := by
  rw [isSeparator, Bool.or_eq_false_iff, decide_eq_false_iff_not, decide_eq_false_iff_not]
  constructor
  · rintro rfl
    exact absurd h (by decide)
  · rintro rfl
    exact absurd h (by decide)

theorem isMarked_cons_of_isDigit {c : Char} {cs : List Char} (hc : c.isDigit = true) :
    IsMarked (c :: cs) ↔ IsMarked cs := by
  rw [IsMarked, List.forall_mem_cons, List.countP_cons_of_neg (by simp [isSeparator_eq_false hc])]
  simp [IsMarked, hc]

/-- Behind a point no other separator may stand. -/
theorem isMarked_cons_point {cs : List Char} :
    IsMarked ('.' :: cs) ↔ ∀ c ∈ cs, c.isDigit = true := by
  have hcount : ('.' :: cs).countP isSeparator = cs.countP isSeparator + 1 :=
    List.countP_cons_of_pos rfl
  rw [IsMarked, hcount, Nat.succ_le_succ_iff, Nat.le_zero, List.countP_eq_zero]
  constructor
  · rintro ⟨hall, hnone⟩ x hx
    exact (hall x (List.mem_cons_of_mem _ hx)).resolve_right (hnone x hx)
  · intro hall
    refine ⟨List.forall_mem_cons.mpr ⟨.inr rfl, fun x hx => .inl (hall x hx)⟩, fun x hx => ?_⟩
    rw [isSeparator_eq_false (hall x hx)]
    exact Bool.false_ne_true

theorem hasDigit_cons {c : Char} {cs : List Char} :
    HasDigit (c :: cs) ↔ c.isDigit = true ∨ HasDigit cs := List.exists_mem_cons_iff _ _ _

theorem pointDigits_cons_of_ne {c : Char} {cs : List Char} (h : c ≠ '.') :
    pointDigits (c :: cs) = pointDigits cs := by simp [pointDigits, h]

theorem pointDigits_cons_point {cs : List Char} (h : ∀ c ∈ cs, c.isDigit = true) :
    pointDigits ('.' :: cs) = cs.length := by
  have hdrop : ('.' :: cs).dropWhile (· ≠ '.') = '.' :: cs := rfl
  rw [pointDigits, hdrop, List.countP_cons_of_neg (by decide), List.countP_eq_length]
  exact h

section

variable {cs : List Char} {p : ℕ × ℕ} {m k a : ℕ} {digit : Bool}

/-- Behind the point only digits are read, and each of them is. -/
theorem scan_behind_point (hline : '_' ∉ cs) (hm : m < 10 ^ a) (hk : k ≤ a)
    (ha : a + cs.countP Char.isDigit ≤ 28) : Decimal.scan ⟨m, k, true, digit⟩ cs = some p ↔
      (∀ c ∈ cs, c.isDigit = true) ∧ (digit = true ∨ HasDigit cs) ∧
        p = (Nat.ofDigitChars 10 cs m, k + cs.length) := by
  induction cs generalizing m k a digit with
  | nil =>
    cases digit with
    | false => simp [Decimal.scan, HasDigit]
    | true =>
      change some (m, k) = some p ↔ _
      rw [Option.some.injEq, eq_comm]
      simp
  | cons c cs ih =>
    rw [List.mem_cons, not_or] at hline
    rw [List.forall_mem_cons, hasDigit_cons]
    by_cases hc : c.isDigit = true
    · rw [List.countP_cons_of_pos hc] at ha
      have hle := le_maxMantissa (ten_mul_add_lt hc hm) (by omega)
      have hroom : k < maxScale := by
        have : maxScale = 28 := rfl
        omega
      rw [scan_digit hc]
      simp only [if_true, hroom, hle, and_self]
      rw [ih hline.2 (ten_mul_add_lt hc hm) (by omega) (by omega), Nat.ofDigitChars_cons,
        List.length_cons, Nat.add_right_comm k 1, Nat.add_assoc k]
      simp [hc]
    · -- a second point, or no character of a number
      have hnone : Decimal.scan ⟨m, k, true, digit⟩ (c :: cs) = none := by
        rw [Decimal.scan]
        split
        · rfl
        · rw [if_neg (Ne.symm hline.1), digit?_eq_none hc]
      rw [hnone]
      exact iff_of_false (Option.some_ne_none p).symm fun h => hc h.1.1

/-- **Digits with a point or without one** are read as the number that they make. -/
theorem scan_before_point (hline : '_' ∉ cs) (hcomma : ',' ∉ cs) (hm : m < 10 ^ a)
    (ha : a + cs.countP Char.isDigit ≤ 28) : Decimal.scan ⟨m, 0, false, digit⟩ cs = some p ↔
      IsMarked cs ∧ (digit = true ∨ HasDigit cs) ∧
        p = (Nat.ofDigitChars 10 (cs.filter Char.isDigit) m, pointDigits cs) := by
  induction cs generalizing m a digit with
  | nil =>
    cases digit with
    | false => simp [Decimal.scan, HasDigit]
    | true =>
      change some (m, 0) = some p ↔ _
      rw [Option.some.injEq, eq_comm]
      simp [pointDigits, IsMarked]
  | cons c cs ih =>
    rw [List.mem_cons, not_or] at hline hcomma
    rw [hasDigit_cons]
    by_cases hc : c.isDigit = true
    · rw [List.countP_cons_of_pos hc] at ha
      have hle := le_maxMantissa (ten_mul_add_lt hc hm) (by omega)
      have hne : c ≠ '.' := by
        rintro rfl
        exact absurd hc (by decide)
      rw [scan_digit hc]
      simp only [Bool.false_eq_true, if_false, if_pos hle]
      rw [ih hline.2 hcomma.2 (ten_mul_add_lt hc hm) (by omega), isMarked_cons_of_isDigit hc,
        List.filter_cons_of_pos hc, Nat.ofDigitChars_cons, pointDigits_cons_of_ne hne]
      simp [hc]
    · rw [List.filter_cons_of_neg hc]
      by_cases hpoint : c = '.'
      · subst hpoint
        rw [List.countP_cons_of_neg hc] at ha
        have hstep : Decimal.scan ⟨m, 0, false, digit⟩ ('.' :: cs) =
            Decimal.scan ⟨m, 0, true, digit⟩ cs := rfl
        rw [hstep, scan_behind_point hline.2 hm (Nat.zero_le a) ha, isMarked_cons_point]
        refine and_congr_right fun hall => ?_
        rw [pointDigits_cons_point hall, List.filter_eq_self.mpr hall, Nat.zero_add]
        simp [hc]
      · have hnone : Decimal.scan ⟨m, 0, false, digit⟩ (c :: cs) = none := by
          rw [Decimal.scan, if_neg hpoint, if_neg (Ne.symm hline.1), digit?_eq_none hc]
        have hsep : ¬ isSeparator c = true := by simp [isSeparator, hpoint, Ne.symm hcomma.1]
        rw [hnone]
        exact iff_of_false (Option.some_ne_none p).symm fun h => (h.1.1 c List.mem_cons_self).elim hc hsep

end

/-- The number has these parts; zero has no sign. -/
structure Decimal.HasParts (d : Decimal) (negative : Bool) (m k : ℕ) : Prop where
  mantissa : d.mantissa = m
  scale : d.scale = k
  negative : d.negative = (negative && m != 0)

theorem Decimal.make?_eq_some_iff {negative : Bool} {m k : ℕ} {d : Decimal} :
    make? negative m k = some d ↔ d.HasParts negative m k := by
  obtain ⟨negative', m', k', hm, hk⟩ := d
  rw [make?]
  constructor
  · intro h
    split at h
    · cases h
      exact ⟨rfl, rfl, rfl⟩
    · cases h
  · rintro ⟨hmantissa, hscale, hnegative⟩
    dsimp only at hmantissa hscale hnegative
    subst hmantissa hscale hnegative
    rw [dif_pos ⟨hm, hk⟩]

theorem Decimal.exists_hasParts (negative : Bool) {m k : ℕ} (hm : m ≤ maxMantissa)
    (hk : k ≤ maxScale) : ∃ d : Decimal, d.HasParts negative m k :=
  ⟨⟨negative && m != 0, m, k, hm, hk⟩, rfl, rfl, rfl⟩

theorem Decimal.HasParts.value {negative : Bool} {m k : ℕ} {d : Decimal}
    (h : d.HasParts negative m k) :
    d.value = ((if negative then -(m : ℤ) else m : ℤ) : ℚ) / 10 ^ k := by
  obtain ⟨x, hx, hvalue⟩ := value_of_make? negative (h.mantissa ▸ d.mantissa_le) (h.scale ▸ d.scale_le)
  rw [make?_eq_some_iff.mpr h, Option.some.injEq] at hx
  rw [hx, hvalue]

section

variable {cs : List Char} {d : Decimal}

theorem digitsValue_le (h : cs.countP Char.isDigit ≤ 28) : digitsValue cs ≤ maxMantissa := by
  have hdigits : ∀ c ∈ cs.filter Char.isDigit, c.isDigit = true := fun c hc =>
    (List.mem_filter.mp hc).2
  have hlt : digitsValue cs < 10 ^ (0 + (cs.filter Char.isDigit).length) :=
    ofDigitChars_lt hdigits (by decide)
  rw [Nat.zero_add, ← List.countP_eq_length_filter] at hlt
  exact le_maxMantissa hlt h

theorem readUnsigned_eq_some_iff (negative : Bool) (hline : '_' ∉ cs) (hcomma : ',' ∉ cs)
    (h : cs.countP Char.isDigit ≤ 28) : Decimal.readUnsigned negative cs = some d ↔
      (IsMarked cs ∧ HasDigit cs) ∧ d.HasParts negative (digitsValue cs) (pointDigits cs) := by
  have hscan : ∀ p, Decimal.scan ⟨0, 0, false, false⟩ cs = some p ↔
      (IsMarked cs ∧ HasDigit cs) ∧ p = (digitsValue cs, pointDigits cs) := by
    intro p
    rw [scan_before_point (a := 0) hline hcomma (by decide) (by omega)]
    simp only [Bool.false_eq_true, false_or, and_assoc]
    rfl
  rw [Decimal.readUnsigned, Option.bind_eq_some_iff]
  simp only [hscan, Decimal.make?_eq_some_iff]
  constructor
  · rintro ⟨_, ⟨hshape, rfl⟩, hparts⟩
    exact ⟨hshape, hparts⟩
  · rintro ⟨hshape, hparts⟩
    exact ⟨_, ⟨hshape, rfl⟩, hparts⟩

/-- **A number without an exponent** is a sign or none in front of digits. -/
theorem readPlain_eq_some_iff (hline : '_' ∉ cs) (hcomma : ',' ∉ cs)
    (h : cs.countP Char.isDigit ≤ 28) : Decimal.readPlain cs = some d ↔
      ∃ negative, ∃ sgn ∈ signs negative, ∃ body, cs = sgn ++ body ∧
        (IsMarked body ∧ HasDigit body) ∧
        d.HasParts negative (digitsValue body) (pointDigits body) := by
  have hbody : ∀ {c : Char} {negative body}, c :: body = cs → ¬ c.isDigit = true →
      (Decimal.readUnsigned negative body = some d ↔ (IsMarked body ∧ HasDigit body) ∧
        d.HasParts negative (digitsValue body) (pointDigits body)) := by
    rintro c negative body rfl hc
    rw [List.countP_cons_of_neg hc] at h
    exact readUnsigned_eq_some_iff negative (fun hmem => hline (List.mem_cons_of_mem _ hmem))
      (fun hmem => hcomma (List.mem_cons_of_mem _ hmem)) h
  constructor
  · unfold Decimal.readPlain
    split
    · next body =>
      rw [hbody rfl (by decide)]
      exact fun hd => ⟨false, ['+'], by simp [signs], body, rfl, hd⟩
    · next body =>
      rw [hbody rfl (by decide)]
      exact fun hd => ⟨true, ['-'], by simp [signs], body, rfl, hd⟩
    · rw [readUnsigned_eq_some_iff false hline hcomma h]
      exact fun hd => ⟨false, [], by simp [signs], cs, rfl, hd⟩
  · rintro ⟨negative, sgn, hsgn, body, rfl, hd⟩
    cases negative with
    | true =>
      obtain rfl : sgn = ['-'] := by simpa [signs] using hsgn
      exact (hbody rfl (by decide)).mpr hd
    | false =>
      obtain rfl | rfl : sgn = [] ∨ sgn = ['+'] := by simpa [signs] using hsgn
      · have hhead : ∀ c, body.head? = some c → c ≠ '+' ∧ c ≠ '-' := by
          intro c hc
          have hchar := hd.1.1.1 c (List.mem_of_head? hc)
          constructor <;> rintro rfl <;> exact absurd hchar (by decide)
        have hplain : Decimal.readPlain body = Decimal.readUnsigned false body := by
          unfold Decimal.readPlain
          split
          · exact absurd rfl (hhead '+' rfl).1
          · exact absurd rfl (hhead '-' rfl).2
          · rfl
        rw [List.nil_append, hplain]
        exact (readUnsigned_eq_some_iff false hline hcomma h).mpr hd
      · exact (hbody rfl (by decide)).mpr hd

theorem read_eq_readPlain (h : 'e' ∉ cs) (h' : 'E' ∉ cs) :
    Decimal.read cs = Decimal.readPlain cs := by
  have hdrop : cs.dropWhile (!Decimal.isExponentMark ·) = [] := by
    refine List.dropWhile_eq_nil_iff.mpr fun c hc => ?_
    have hne : c ≠ 'e' ∧ c ≠ 'E' := ⟨fun e => h (e ▸ hc), fun e => h' (e ▸ hc)⟩
    simp [Decimal.isExponentMark, hne.1, hne.2]
  rw [Decimal.read, Decimal.readScientific, hdrop, Option.or_none]

end

end PostingRules
