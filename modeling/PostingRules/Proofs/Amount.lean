import PostingRules.Amount.Kronor
import PostingRules.Amount.Reader
import PostingRules.Proofs.Decimal
import PostingRules.Proofs.Text.Digits

/-!
# Printed amounts are read back

* `Spells`: a row of digits and its value; `ofDigitChars_lt`: it is bounded by their number;
* `amountText_framed`, `pointed_framed`: what the reader makes of a printed text before it reads the
  number;
* `scan_whole`, `scan_fraction`: the number itself, up to the largest mantissa;
* **`amountOf?_kronor`**: the amount that is read back is the one printed, rounded to two places.
-/

namespace PostingRules

open PostingRules.Text

/-! ## Digits -/

/-- The text is a row of digits with the value `n`. -/
def Spells (ds : List Char) (n : Nat) : Prop :=
  (∀ c ∈ ds, c.isDigit = true) ∧ Nat.ofDigitChars 10 ds 0 = n

/-- One more digit makes a number longer by one place. -/
theorem ten_mul_add_lt {c : Char} (h : c.isDigit = true) {n a : Nat} (hn : n < 10 ^ a) :
    10 * n + (c.toNat - '0'.toNat) < 10 ^ (a + 1) := by
  have := digitValue_le h
  rw [Nat.pow_succ]
  omega

theorem ofDigitChars_lt {cs : List Char} (h : ∀ c ∈ cs, c.isDigit = true) {n a : Nat}
    (hn : n < 10 ^ a) : Nat.ofDigitChars 10 cs n < 10 ^ (a + cs.length) := by
  induction cs generalizing n a with
  | nil => rwa [Nat.ofDigitChars_nil]
  | cons c cs ih =>
    rw [List.forall_mem_cons] at h
    rw [Nat.ofDigitChars_cons, List.length_cons, Nat.add_comm cs.length, ← Nat.add_assoc]
    exact ih h.2 (ten_mul_add_lt h.1 hn)

theorem Spells.append {ds es : List Char} {m n : Nat} (h : Spells ds m) (h' : Spells es n) :
    Spells (ds ++ es) (10 ^ es.length * m + n) := by
  refine ⟨List.forall_mem_append.mpr ⟨h.1, h'.1⟩, ?_⟩
  rw [Nat.ofDigitChars_append, h.2, Nat.ofDigitChars_eq_ofDigitChars_zero, h'.2]

theorem spells_digits (w n : Nat) : Spells (Decimal.digits w n) n := by
  refine ⟨List.forall_mem_append.mpr ⟨fun c hc => ?_, fun c hc => ?_⟩, ?_⟩
  · rw [List.eq_of_mem_replicate hc]
    rfl
  · exact Nat.isDigit_of_mem_toDigits (by decide) (by decide) hc
  · rw [Decimal.digits, Nat.ofDigitChars_append, Nat.ofDigitChars_replicate_zero, Nat.mul_zero,
      Nat.ofDigitChars_ten_toDigits]

theorem length_digits {w n : Nat} (hw : 0 < w) (hn : n < 10 ^ w) :
    (Decimal.digits w n).length = w := by
  have := (Nat.length_toDigits_le_iff (by decide) hw).mpr hn
  simp only [Decimal.digits, List.length_append, List.length_replicate]
  omega

theorem digits_ne_nil (w n : Nat) : Decimal.digits w n ≠ [] := fun h =>
  Nat.toDigits_ne_nil (List.append_eq_nil_iff.mp h).2

/-! ## The text of a printed amount -/

/-- Does the reader keep the character? -/
def isKept (c : Char) : Bool := !isBlank c && c != '"'

theorem filter_isKept {ds : List Char} (h : ∀ c ∈ ds, c.isDigit = true) : ds.filter isKept = ds := by
  rw [List.filter_eq_self]
  intro c hc
  have hquote : c ≠ '"' := by
    rintro rfl
    exact absurd (h _ hc) (by decide)
  simp [isKept, isBlank_eq_false_of_isDigit (h c hc), hquote]

/-- Without its blanks a grouped number is a row of digits. -/
theorem spells_grouped (n : Nat) :
    Spells ((grouped n).filter isKept) n ∧ (grouped n).filter isKept ≠ [] := by
  induction n using Nat.strong_induction_on with
  | h n ih =>
    unfold grouped
    split
    · rw [filter_isKept (spells_digits 1 n).1]
      exact ⟨spells_digits 1 n, digits_ne_nil 1 n⟩
    · obtain ⟨hs, hne⟩ := ih (n / 1000) (by omega)
      have htail := spells_digits 3 (n % 1000)
      have hlen : (Decimal.digits 3 (n % 1000)).length = 3 := length_digits (by decide) (by omega)
      have hblank : isKept ' ' = false := by decide
      rw [List.filter_append, List.filter_cons_of_neg (by simp [hblank]), filter_isKept htail.1]
      have happend := hs.append htail
      rw [hlen] at happend
      have hn : 10 ^ 3 * (n / 1000) + n % 1000 = n := by omega
      rw [hn] at happend
      exact ⟨happend, by simp [hne]⟩

/-- A minus sign or none. -/
def sign (negative : Bool) : List Char := if negative then ['-'] else []

theorem mem_sign {negative : Bool} {c : Char} (h : c ∈ sign negative) : c = '-' := by
  cases negative
  · cases h
  · simpa [sign] using h

theorem dropKr_of_head {cs : List Char} (h : cs.head? ≠ some 'r') : dropKr cs = cs := by
  unfold dropKr
  split
  · exact absurd rfl h
  · rfl

theorem dropSek_of_head {cs : List Char} (h : cs.head? ≠ some 'K') : dropSek cs = cs := by
  unfold dropSek
  split
  · exact absurd rfl h
  · rfl

/-- The reader drops the unit and the blanks between groups. -/
theorem amountText_framed {negative : Bool} {whole fraction : List Char}
    (hf : ∀ c ∈ fraction, c.isDigit = true) (hne : fraction ≠ []) :
    amountText (sign negative ++ whole ++ ',' :: fraction ++ [' ', 'k', 'r']) =
      sign negative ++ whole.filter isKept ++ ',' :: fraction := by
  have hsign : (sign negative).filter isKept = sign negative := by cases negative <;> decide
  have hcomma : (',' :: fraction).filter isKept = ',' :: fraction := by
    rw [List.filter_cons_of_pos (by decide), filter_isKept hf]
  have hunit : [' ', 'k', 'r'].filter isKept = ['k', 'r'] := by decide
  have hkept : (sign negative ++ whole ++ ',' :: fraction ++ [' ', 'k', 'r']).filter isKept =
      sign negative ++ whole.filter isKept ++ ',' :: fraction ++ ['k', 'r'] := by
    rw [List.filter_append, List.filter_append, List.filter_append, hsign, hcomma, hunit]
  -- Read backwards, the unit comes first and a digit behind it.
  obtain ⟨init, last, rfl⟩ := (List.eq_nil_or_concat fraction).resolve_left hne
  have hlast : ∀ d, d.isDigit = false →
      (sign negative ++ whole.filter isKept ++ ',' :: init.concat last).reverse.head? ≠ some d := by
    intro d hd h
    have hmem : last.isDigit = true := hf last (by simp)
    obtain rfl : last = d := by simpa using h
    rw [hmem] at hd
    cases hd
  change (dropSek (dropKr (List.filter isKept _).reverse)).reverse = _
  rw [hkept, List.reverse_append]
  change (dropSek (dropKr (List.reverse _))).reverse = _
  rw [dropKr_of_head (hlast 'r' (by decide)), dropSek_of_head (hlast 'K' (by decide)),
    List.reverse_reverse]

theorem map_commaToPoint {cs : List Char} (h : ',' ∉ cs) : cs.map commaToPoint = cs := by
  refine (List.map_congr_left fun c hc => if_neg ?_).trans (List.map_id cs)
  rintro rfl
  exact h hc

/-- The comma is the decimal mark. -/
theorem pointed_framed {negative : Bool} {whole fraction : List Char}
    (hw : ∀ c ∈ whole, c.isDigit = true) (hf : ∀ c ∈ fraction, c.isDigit = true) :
    pointed (sign negative ++ whole ++ ',' :: fraction) =
      sign negative ++ whole ++ '.' :: fraction := by
  have hdigits : ∀ {ds : List Char}, (∀ c ∈ ds, c.isDigit = true) →
      '.' ∉ ds ∧ ds.map commaToPoint = ds := by
    intro ds hds
    exact ⟨fun h => absurd (hds _ h) (by decide),
      map_commaToPoint fun h => absurd (hds _ h) (by decide)⟩
  have hsign : (sign negative).map commaToPoint = sign negative := by cases negative <;> rfl
  have hpoint : (sign negative ++ whole ++ ',' :: fraction).contains '.' = false := by
    have hnot : '.' ∉ sign negative := fun h => absurd (mem_sign h) (by decide)
    simp [hnot, (hdigits hw).1, (hdigits hf).1]
  unfold pointed
  rw [hpoint, Bool.and_false, if_neg Bool.false_ne_true, List.map_append, List.map_append,
    List.map_cons, hsign, (hdigits hw).2, (hdigits hf).2]
  rfl

/-! ## The number -/

theorem scan_digit {c : Char} (hc : c.isDigit = true) (s : Decimal.Scan) (rest : List Char) :
    Decimal.scan s (c :: rest) =
      let d := c.toNat - '0'.toNat
      let m := 10 * s.mantissa + d
      if s.point then
        if s.scale < maxScale ∧ m ≤ maxMantissa then Decimal.scan ⟨m, s.scale + 1, true, true⟩ rest
        else if rest.all Decimal.isTail then Decimal.roundDigit s.mantissa s.scale d
        else none
      else if m ≤ maxMantissa then Decimal.scan ⟨m, 0, false, true⟩ rest
      else none := by
  have hpoint : c ≠ '.' := by
    rintro rfl
    exact absurd hc (by decide)
  have hunderscore : c ≠ '_' := by
    rintro rfl
    exact absurd hc (by decide)
  rw [Decimal.scan, if_neg hpoint, if_neg hunderscore, digit?_of_isDigit hc]

/-- Digits before the point are taken in as long as the number fits. -/
theorem scan_whole {ds rest : List Char} {m : Nat} {digit : Bool}
    (hd : ∀ c ∈ ds, c.isDigit = true) (hm : Nat.ofDigitChars 10 ds m ≤ maxMantissa)
    (hne : digit = true ∨ ds ≠ []) :
    Decimal.scan ⟨m, 0, false, digit⟩ (ds ++ rest) =
      Decimal.scan ⟨Nat.ofDigitChars 10 ds m, 0, false, true⟩ rest := by
  induction ds generalizing m digit with
  | nil =>
    obtain rfl : digit = true := hne.resolve_right fun h => h rfl
    rw [Nat.ofDigitChars_nil, List.nil_append]
  | cons c ds ih =>
    rw [List.forall_mem_cons] at hd
    rw [Nat.ofDigitChars_cons] at hm ⊢
    have hle := Nat.le_trans (le_ofDigitChars ds _) hm
    rw [List.cons_append, scan_digit hd.1]
    simp only [Bool.false_eq_true, if_false, if_pos hle]
    exact ih hd.2 hm (.inl rfl)

/-- Of two fraction digits those are left off that do not fit; they are zeros if the number fits with
fewer digits. -/
theorem scan_fraction {h m k : Nat} {fraction : List Char} (hf : Spells fraction (h % 100))
    (hlen : fraction.length = 2) (hh : h = m * 10 ^ k) (hk : k ≤ 2) (hm : m ≤ maxMantissa) :
    ∃ m' s', Decimal.scan ⟨h / 100, 0, false, true⟩ ('.' :: fraction) = some (m', s') ∧
      m' ≤ maxMantissa ∧ s' ≤ 2 ∧ m' * 10 ^ (2 - s') = h := by
  obtain ⟨a, b, rfl⟩ := List.length_eq_two.mp hlen
  obtain ⟨hdigits, hvalue⟩ := hf
  have ha : a.isDigit = true := hdigits a (by simp)
  have hb : b.isDigit = true := hdigits b (by simp)
  obtain ⟨x, hx⟩ : ∃ x, a.toNat - '0'.toNat = x := ⟨_, rfl⟩
  obtain ⟨y, hy⟩ : ∃ y, b.toNat - '0'.toNat = y := ⟨_, rfl⟩
  have hy9 : y ≤ 9 := by
    have : b.toNat ≤ '9'.toNat := (isDigit_iff.mp hb).2
    have h9 : '9'.toNat = 57 := rfl
    have h0 : '0'.toNat = 48 := rfl
    omega
  rw [Nat.ofDigitChars_cons, Nat.ofDigitChars_cons, Nat.ofDigitChars_nil, hx, hy] at hvalue
  have hscan : Decimal.scan ⟨h / 100, 0, false, true⟩ ['.', a, b] =
      Decimal.scan ⟨h / 100, 0, true, true⟩ [a, b] := rfl
  rw [hscan, scan_digit ha, hx]
  have hxy : h = 100 * (h / 100) + 10 * x + y := by omega
  -- The last digits of a number with fewer than two fraction digits of its own are zeros.
  have hfew : h = m ∨ h = 10 * m ∨ h = 100 * m := by
    obtain rfl | rfl | rfl : k = 0 ∨ k = 1 ∨ k = 2 := by omega
    · exact .inl (by omega)
    · exact .inr (.inl (by omega))
    · exact .inr (.inr (by omega))
  simp only [if_true, show (0 : Nat) < maxScale from by decide, true_and]
  split
  · next hfit =>
    rw [scan_digit hb, hy]
    simp only [if_true, show (0 + 1 : Nat) < maxScale from by decide, true_and]
    split
    · next hfit' => exact ⟨10 * (10 * (h / 100) + x) + y, 2, rfl, hfit', by decide, by omega⟩
    · next hfull =>
      obtain rfl : y = 0 := by omega
      exact ⟨10 * (h / 100) + x, 1, rfl, hfit, by decide, by omega⟩
  · next hfull =>
    obtain ⟨rfl, rfl⟩ : x = 0 ∧ y = 0 := by omega
    have htail : [b].all Decimal.isTail = true := by
      simp [Decimal.isTail, isDigit, digit?_of_isDigit hb]
    rw [if_pos htail]
    exact ⟨h / 100, 0, rfl, by omega, by decide, by omega⟩

/-! ## The whole text -/

theorem readPlain_sign (negative : Bool) {cs : List Char}
    (h : ∀ c, cs.head? = some c → c.isDigit = true) :
    Decimal.readPlain (sign negative ++ cs) = Decimal.readUnsigned negative cs := by
  cases negative
  · unfold Decimal.readPlain
    split
    · next rest heq => exact absurd (h '+' (congrArg List.head? heq)) (by decide)
    · next rest heq => exact absurd (h '-' (congrArg List.head? heq)) (by decide)
    · rfl
  · rfl

/-- What is read of a printed number of hundredths, with any digits of its own up to the largest
mantissa. -/
theorem readUnsigned_hundredths (negative : Bool) {h m k : Nat} {whole fraction : List Char}
    (hw : Spells whole (h / 100)) (hne : whole ≠ []) (hf : Spells fraction (h % 100))
    (hlen : fraction.length = 2) (hh : h = m * 10 ^ k) (hk : k ≤ 2) (hm : m ≤ maxMantissa) :
    ∃ x, Decimal.readUnsigned negative (whole ++ '.' :: fraction) = some x ∧
      x.value = ((if negative then -(h : ℤ) else h : ℤ) : ℚ) / 100 := by
  have hfit : h / 100 ≤ maxMantissa := by
    have hpow : 10 ^ k ≤ 100 := Nat.pow_le_pow_right (by decide) hk
    have : h ≤ m * 100 := hh ▸ Nat.mul_le_mul_left m hpow
    omega
  obtain ⟨m', s', hscan, hm', hs', hvalue⟩ := scan_fraction hf hlen hh hk hm
  obtain ⟨x, hx, hxv⟩ := Decimal.value_of_make? negative hm' (Nat.le_trans hs' (by decide))
  have hwhole : Decimal.scan ⟨0, 0, false, false⟩ (whole ++ '.' :: fraction) =
      Decimal.scan ⟨h / 100, 0, false, true⟩ ('.' :: fraction) := by
    rw [scan_whole hw.1 (hw.2 ▸ hfit) (.inr hne), hw.2]
  refine ⟨x, ?_, ?_⟩
  · rw [Decimal.readUnsigned, hwhole, hscan]
    exact hx
  · have hsplit : (100 : ℚ) = 10 ^ s' * 10 ^ (2 - s') := by
      rw [← pow_add, Nat.add_sub_cancel' hs']
      norm_num
    rw [hxv, ← hvalue, hsplit]
    push_cast
    split <;> field_simp

/-- The hundredths that are printed are those of the amount, a half rounded away from zero. -/
theorem roundsAway_hundredths (d : Decimal) : RoundsAway (100 * d.value)
    (if d.negative && d.mantissa != 0 then -(hundredths d : ℤ) else hundredths d) := by
  have hround : RoundsAway (10 ^ 2 * (d.mantissa / 10 ^ d.scale)) ((hundredths d : ℕ) : ℤ) :=
    roundsAway_roundTo d 2
  rw [show (10 : ℚ) ^ 2 = 100 by norm_num] at hround
  rw [d.value_eq]
  by_cases hneg : d.negative = true
  · rw [if_pos hneg, hneg, Bool.true_and, mul_neg]
    by_cases hm : d.mantissa = 0
    · -- A zero is printed without its sign.
      have hzero : (100 : ℚ) * ((d.mantissa : ℚ) / 10 ^ d.scale) = 0 := by simp [hm]
      rw [hzero] at hround ⊢
      simpa [hm] using hround
    · rw [if_pos (by simpa using hm)]
      exact hround.neg
  · rw [if_neg hneg, Bool.eq_false_iff.mpr hneg, Bool.false_and, if_neg Bool.false_ne_true]
    exact hround

/-- **The amount that is read back** is the one printed, rounded to two places. -/
theorem amountOf?_kronor (d : Decimal) : ∃ x n, amountOf? (kronor d) = some x ∧
    x.value = (n : ℤ) / 100 ∧ RoundsAway (100 * d.value) n := by
  obtain ⟨h, hh⟩ : ∃ h, hundredths d = h := ⟨_, rfl⟩
  obtain ⟨negative, hn⟩ : ∃ b, (d.negative && d.mantissa != 0) = b := ⟨_, rfl⟩
  have hlist : kronorList d =
      sign negative ++ grouped (h / 100) ++ ',' :: Decimal.digits 2 (h % 100) ++
      [' ', 'k', 'r'] := by
    rw [kronorList, hh, hn]
    rfl
  have hlen : (Decimal.digits 2 (h % 100)).length = 2 := length_digits (by decide) (by omega)
  have hf := spells_digits 2 (h % 100)
  obtain ⟨hw, hne⟩ := spells_grouped (h / 100)
  obtain ⟨x, hx, hxv⟩ := readUnsigned_hundredths negative hw hne hf hlen hh.symm
    (Nat.sub_le 2 _) (d.roundTo 2).mantissa_le
  refine ⟨x, if negative then -(h : ℤ) else h, ?_, hxv, ?_⟩
  · rw [amountOf?, kronor, String.toList_ofList, readAmount, hlist,
      amountText_framed hf.1 (digits_ne_nil 2 _), pointed_framed hw.1 hf.1, List.append_assoc,
      Decimal.read, readPlain_sign, hx]
    · rfl
    · intro c hc
      rw [List.head?_append_of_ne_nil _ hne] at hc
      exact hw.1 c (List.mem_of_head? hc)
  · rw [← hn, ← hh]
    exact roundsAway_hundredths d

end PostingRules
