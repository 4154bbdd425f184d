import PostingRules.Proofs.Amount

/-!
# How amounts are printed

* `Spells.lt`, `Spells.le`, `Spells.eq_of_length`: a number and the length of its digits;
  **`Spells.eq_digits`**: without zeros in front there is one row of digits;
* `IsGrouped`, **`isGrouped_iff`**: digits in groups of three, said without the recursion;
* `IsKronor`, `isKronor_iff`, `IsKronor.unique`: the text of an amount, and what can be read off it;
* **`isKronor_kronor`**: every amount is printed with its rounded digits and with the sign that it has
  before it is rounded.
-/

namespace PostingRules

/-! ## Digits -/

section

variable {ds es : List Char} {m n w : ℕ}

theorem Spells.lt (h : Spells ds n) : n < 10 ^ ds.length := by
  have hlt : Nat.ofDigitChars 10 ds 0 < 10 ^ (0 + ds.length) :=
    ofDigitChars_lt h.1 (by decide)
  rwa [h.2, Nat.zero_add] at hlt

/-- The digits in front and the last one, with their values. -/
theorem Spells.concat {c : Char} (h : Spells (ds ++ [c]) n) :
    Spells ds (n / 10) ∧ c.isDigit = true ∧ c.toNat - '0'.toNat = n % 10 := by
  obtain ⟨hdigits, hvalue⟩ := h
  obtain ⟨hds, hc⟩ := List.forall_mem_append.mp hdigits
  have hc : c.isDigit = true := hc c (List.mem_singleton.mpr rfl)
  have hle := Text.digitValue_le hc
  rw [Nat.ofDigitChars_append, Nat.ofDigitChars_cons, Nat.ofDigitChars_nil] at hvalue
  exact ⟨⟨hds, by omega⟩, hc, by omega⟩

/-- The number of digits and the value determine them. -/
theorem Spells.eq_of_length (h : Spells ds n) (h' : Spells es n) (hlen : ds.length = es.length) :
    ds = es := by
  induction ds using List.reverseRecOn generalizing es n with
  | nil => exact (List.length_eq_zero_iff.mp hlen.symm).symm
  | append_singleton ds c ih =>
    obtain ⟨es, d, rfl⟩ := (List.eq_nil_or_concat es).resolve_left fun hnil => by
      rw [hnil, List.length_append] at hlen
      cases hlen
    rw [List.concat_eq_append] at h' hlen ⊢
    obtain ⟨hds, hc, hcv⟩ := h.concat
    obtain ⟨hes, hd, hdv⟩ := h'.concat
    have hcd := Text.eq_of_digitValue_eq hc hd (hcv.trans hdv.symm)
    rw [hcd, ih hds hes (by simpa using hlen)]

/-- Without a zero in front a number is not shorter than its digits. -/
theorem Spells.le (h : Spells ds n) (hne : ds ≠ []) (hlead : ds.head? ≠ some '0') :
    10 ^ (ds.length - 1) ≤ n := by
  induction ds using List.reverseRecOn generalizing n with
  | nil => exact absurd rfl hne
  | append_singleton ds c ih =>
    obtain ⟨hds, hc, hcv⟩ := h.concat
    rw [List.length_append, List.length_singleton, Nat.add_sub_cancel]
    cases ds with
    | nil =>
      -- one digit that is no zero
      have hzero : c.toNat - '0'.toNat ≠ 0 := fun h0 => by
        have hce := Text.eq_of_digitValue_eq (d := '0') hc rfl h0
        exact hlead (congrArg some hce)
      rw [List.length_nil, pow_zero]
      omega
    | cons d ds =>
      have hle := ih hds (List.cons_ne_nil d ds) hlead
      rw [List.length_cons, Nat.add_sub_cancel] at hle
      rw [List.length_cons, pow_succ]
      omega

theorem digits_one (n : ℕ) : Decimal.digits 1 n = Nat.toDigits 10 n := by
  have hpos : 1 ≤ (Nat.toDigits 10 n).length := List.length_pos_iff.mpr Nat.toDigits_ne_nil
  rw [Decimal.digits, Nat.sub_eq_zero_of_le hpos]
  rfl

/-- The digits of a number begin with a zero only if it is zero. -/
theorem eq_zero_of_head?_digits (h : (Decimal.digits 1 n).head? = some '0') : n = 0 := by
  have hspells := spells_digits 1 n
  rw [digits_one] at h hspells
  obtain ⟨ds, hds⟩ := List.head?_eq_some_iff.mp h
  have hrest : Spells ds n := by
    rw [hds] at hspells
    refine ⟨(List.forall_mem_cons.mp hspells.1).2, ?_⟩
    rw [← hspells.2, Nat.ofDigitChars_cons]
    rfl
  cases hlen : ds.length with
  | zero =>
    rw [List.length_eq_zero_iff.mp hlen] at hrest
    exact hrest.2.symm
  | succ k =>
    -- the number would fit without the zero
    have hfit := (Nat.length_toDigits_le_iff (by decide) (Nat.succ_pos k)).mpr (hlen ▸ hrest.lt)
    rw [hds, List.length_cons, hlen] at hfit
    omega

/-- **Without zeros in front** a number is written in one way. -/
theorem Spells.eq_digits (h : Spells ds n) (hne : ds ≠ [])
    (hlead : ds.head? = some '0' → ds = ['0']) : ds = Decimal.digits 1 n := by
  have h' := spells_digits 1 n
  have hne' := digits_ne_nil 1 n
  by_cases hzero : ds.head? = some '0'
  · obtain rfl := hlead hzero
    have hn : n = 0 := h.2.symm
    rw [hn]
    rfl
  · have hle := h.le hne hzero
    have hpos : n ≠ 0 := by
      have := Nat.pow_pos (n := ds.length - 1) (show 0 < 10 by decide)
      omega
    have hle' := h'.le hne' fun hhead => hpos (eq_zero_of_head?_digits hhead)
    have hlt := (Nat.pow_lt_pow_iff_right (by decide)).mp (hle.trans_lt h'.lt)
    have hlt' := (Nat.pow_lt_pow_iff_right (by decide)).mp (hle'.trans_lt h.lt)
    have hlen := List.length_pos_iff.mpr hne
    exact h.eq_of_length h' (by omega)

/-- A width that the number fits in determines its digits. -/
theorem Spells.eq_digits_of_length (h : Spells ds n) (hw : 0 < w) (hlen : ds.length = w) :
    ds = Decimal.digits w n := by
  refine h.eq_of_length (spells_digits w n) ?_
  rw [length_digits hw (hlen ▸ h.lt), hlen]

/-- The row of digits is cut in front of its last ones. -/
theorem Spells.of_append (h : Spells (ds ++ es) n) :
    Spells ds (n / 10 ^ es.length) ∧ Spells es (n % 10 ^ es.length) := by
  obtain ⟨hdigits, hvalue⟩ := h
  obtain ⟨hds, hes⟩ := List.forall_mem_append.mp hdigits
  have hback : Spells es (Nat.ofDigitChars 10 es 0) := ⟨hes, rfl⟩
  have hlt := hback.lt
  rw [Nat.ofDigitChars_append, Nat.ofDigitChars_eq_ofDigitChars_zero] at hvalue
  rw [← hvalue, Nat.mul_add_div (Nat.pow_pos (by decide)), Nat.mul_add_mod, Nat.div_eq_of_lt hlt,
    Nat.mod_eq_of_lt hlt, Nat.add_zero]
  exact ⟨⟨hds, rfl⟩, hback⟩

end

/-! ## Groups -/

/-- **The digits of a number in groups**: three in each but the first, which has one to three, and no
zero in front of other digits. -/
structure IsGrouped (first : List Char) (rest : List (List Char)) (n : ℕ) : Prop where
  spells : Spells (first ++ rest.flatten) n
  first_length : 1 ≤ first.length ∧ first.length ≤ 3
  rest_length : ∀ g ∈ rest, g.length = 3
  leading : first.head? = some '0' → first = ['0'] ∧ rest = []

/-- Groups with a blank between them. -/
def spaced (first : List Char) (rest : List (List Char)) : List Char :=
  first ++ rest.flatMap (' ' :: ·)

theorem IsGrouped.spaced_eq {first : List Char} {rest : List (List Char)} {n : ℕ}
    (h : IsGrouped first rest n) : spaced first rest = grouped n := by
  induction rest using List.reverseRecOn generalizing n with
  | nil =>
    have hspells : Spells first n := by simpa using h.spells
    have hlt : n < 1000 :=
      hspells.lt.trans_le (Nat.pow_le_pow_right (by decide) h.first_length.2 : _ ≤ 10 ^ 3)
    rw [grouped, if_pos hlt, spaced, List.flatMap_nil, List.append_nil]
    exact hspells.eq_digits (List.length_pos_iff.mp h.first_length.1) fun hz => (h.leading hz).1
  | append_singleton rest g ih =>
    have hg : g.length = 3 := h.rest_length g (by simp)
    have hspells := h.spells
    rw [List.flatten_append, List.flatten_singleton, ← List.append_assoc] at hspells
    obtain ⟨hfront, hback⟩ := hspells.of_append
    rw [hg] at hfront hback
    have hlead : first.head? ≠ some '0' := fun hz => by simpa using (h.leading hz).2
    have hgroups : IsGrouped first rest (n / 10 ^ 3) :=
      ⟨hfront, h.first_length, fun g' hg' => h.rest_length g' (List.mem_append_left _ hg'),
        fun hz => absurd hz hlead⟩
    -- a group stands behind the first one, so there are more than three digits
    have hge : ¬ n < 1000 := by
      have hne : first ≠ [] := List.length_pos_iff.mp h.first_length.1
      have hle := hfront.le (by simp [hne]) (by rwa [List.head?_append_of_ne_nil _ hne])
      have hpos : 0 < 10 ^ ((first ++ rest.flatten).length - 1) := Nat.pow_pos (by decide)
      omega
    rw [grouped, if_neg hge, show n / 1000 = n / 10 ^ 3 from rfl,
      show n % 1000 = n % 10 ^ 3 from rfl, ← ih hgroups,
      ← hback.eq_digits_of_length (by decide) hg, spaced, spaced, List.flatMap_append,
      List.flatMap_singleton, List.append_assoc]

theorem exists_isGrouped (n : ℕ) : ∃ first rest, IsGrouped first rest n := by
  induction n using Nat.strong_induction_on with
  | h n ih =>
    by_cases hlt : n < 1000
    · have hlen : (Decimal.digits 1 n).length ≤ 3 := by
        rw [digits_one]
        exact (Nat.length_toDigits_le_iff (by decide) (by decide)).mpr hlt
      refine ⟨Decimal.digits 1 n, [], ?_, ⟨List.length_pos_iff.mpr (digits_ne_nil 1 n), hlen⟩, nofun,
        fun hz => ⟨?_, rfl⟩⟩
      · simpa using spells_digits 1 n
      · rw [eq_zero_of_head?_digits hz]
        rfl
    · obtain ⟨first, rest, h⟩ := ih (n / 1000) (by omega)
      have hlen : (Decimal.digits 3 (n % 1000)).length = 3 := length_digits (by decide) (by omega)
      refine ⟨first, rest ++ [Decimal.digits 3 (n % 1000)], ?_, h.first_length, ?_, fun hz => ?_⟩
      · have happend := h.spells.append (spells_digits 3 (n % 1000))
        rw [hlen, show 10 ^ 3 * (n / 1000) + n % 1000 = n by omega] at happend
        rwa [List.flatten_append, List.flatten_singleton, ← List.append_assoc]
      · rw [List.forall_mem_append, List.forall_mem_singleton]
        exact ⟨h.rest_length, hlen⟩
      · -- the digits in front of the last three are not zero
        obtain ⟨rfl, rfl⟩ := h.leading hz
        have hzero : 0 = n / 1000 := h.spells.2
        omega

/-- **The digits of a number in groups** are written in one way. -/
theorem isGrouped_iff {cs : List Char} {n : ℕ} :
    (∃ first rest, IsGrouped first rest n ∧ cs = spaced first rest) ↔ cs = grouped n := by
  constructor
  · rintro ⟨first, rest, h, rfl⟩
    exact h.spaced_eq
  · rintro rfl
    obtain ⟨first, rest, h⟩ := exists_isGrouped n
    exact ⟨first, rest, h, h.spaced_eq.symm⟩

/-! ## Amounts -/

/-- **The text of an amount** of `h` hundredths: a minus sign or none, the whole kronor in groups, a
comma, two digits and the unit. -/
def IsKronor (negative : Bool) (h : ℕ) (cs : List Char) : Prop :=
  ∃ first rest fraction, IsGrouped first rest (h / 100) ∧ Spells fraction (h % 100) ∧
    fraction.length = 2 ∧
    cs = sign negative ++ spaced first rest ++ ',' :: fraction ++ [' ', 'k', 'r']

/-- The text of an amount is written in one way. -/
theorem isKronor_iff {negative : Bool} {h : ℕ} {cs : List Char} : IsKronor negative h cs ↔
    cs = sign negative ++ grouped (h / 100) ++ ',' :: Decimal.digits 2 (h % 100) ++
      [' ', 'k', 'r'] := by
  constructor
  · rintro ⟨first, rest, fraction, hgroups, hfraction, hlen, rfl⟩
    rw [isGrouped_iff.mp ⟨first, rest, hgroups, rfl⟩,
      hfraction.eq_digits_of_length (by decide) hlen]
  · rintro rfl
    obtain ⟨first, rest, hgroups, hspaced⟩ := isGrouped_iff.mpr (Eq.refl (grouped (h / 100)))
    have hlen : (Decimal.digits 2 (h % 100)).length = 2 := length_digits (by decide) (by omega)
    exact ⟨first, rest, _, hgroups, spells_digits 2 _, hlen, by rw [hspaced]⟩

theorem filter_isDigit_spaced {first : List Char} {rest : List (List Char)}
    (h : ∀ c ∈ first ++ rest.flatten, c.isDigit = true) :
    (spaced first rest).filter Char.isDigit = first ++ rest.flatten := by
  obtain ⟨hfirst, hrest⟩ := List.forall_mem_append.mp h
  have hgroups : (rest.flatMap (' ' :: ·)).filter Char.isDigit = rest.flatten := by
    induction rest with
    | nil => rfl
    | cons g rest ih =>
      rw [List.flatten_cons] at h hrest
      obtain ⟨hg, hrest⟩ := List.forall_mem_append.mp hrest
      rw [List.flatMap_cons, List.filter_append, List.filter_cons_of_neg (by decide),
        List.filter_eq_self.mpr hg, ih (List.forall_mem_append.mpr ⟨hfirst, hrest⟩) hrest,
        List.flatten_cons]
  rw [spaced, List.filter_append, List.filter_eq_self.mpr hfirst, hgroups]

/-- **The digits of the text** are those of the hundredths. -/
theorem IsKronor.spells {negative : Bool} {h : ℕ} {cs : List Char} (hk : IsKronor negative h cs) :
    Spells (cs.filter Char.isDigit) h := by
  obtain ⟨first, rest, fraction, hgroups, hfraction, hlen, rfl⟩ := hk
  have hsign : (sign negative).filter Char.isDigit = [] := by cases negative <;> decide
  have hcomma : (',' :: fraction).filter Char.isDigit = fraction := by
    rw [List.filter_cons_of_neg (by decide), List.filter_eq_self.mpr hfraction.1]
  have hunit : [' ', 'k', 'r'].filter Char.isDigit = [] := by decide
  have happend := hgroups.spells.append hfraction
  rw [hlen, show 10 ^ 2 * (h / 100) + h % 100 = h by omega] at happend
  rwa [List.filter_append, List.filter_append, List.filter_append, hsign, hcomma, hunit,
    filter_isDigit_spaced hgroups.spells.1, List.nil_append, List.append_nil]

/-- **The text begins with a minus** just if it has the sign. -/
theorem IsKronor.head?_eq_minus_iff {negative : Bool} {h : ℕ} {cs : List Char}
    (hk : IsKronor negative h cs) : cs.head? = some '-' ↔ negative = true := by
  obtain ⟨first, rest, fraction, hgroups, -, -, rfl⟩ := hk
  obtain ⟨c, first, rfl⟩ := List.exists_cons_of_ne_nil
    (List.length_pos_iff.mp hgroups.first_length.1)
  cases negative with
  | true => exact iff_of_true rfl rfl
  | false =>
    have hc : c.isDigit = true := hgroups.spells.1 c (by simp)
    refine iff_of_false (fun hminus => ?_) Bool.false_ne_true
    obtain rfl : c = '-' := by simpa [sign, spaced] using hminus
    exact absurd hc (by decide)

/-- The sign and the hundredths can be read off the text of an amount. -/
theorem IsKronor.unique {negative negative' : Bool} {h h' : ℕ} {cs : List Char}
    (hk : IsKronor negative h cs) (hk' : IsKronor negative' h' cs) :
    negative = negative' ∧ h = h' := by
  have hsign : negative = true ↔ negative' = true := by
    rw [← hk.head?_eq_minus_iff, hk'.head?_eq_minus_iff]
  exact ⟨Bool.eq_iff_iff.mpr hsign, hk.spells.2.symm.trans hk'.spells.2⟩

theorem negative_eq_decide (d : Decimal) :
    (d.negative && d.mantissa != 0) = decide (d.value < 0) := by
  rw [Bool.eq_iff_iff, Bool.and_eq_true, bne_iff_ne, decide_eq_true_eq, d.value_eq]
  have hpos : (0 : ℚ) < 10 ^ d.scale := by positivity
  have hnonneg : (0 : ℚ) ≤ d.mantissa / 10 ^ d.scale := by positivity
  cases d.negative with
  | true =>
    rw [if_pos rfl, neg_lt_zero, div_pos_iff_of_pos_right hpos, Nat.cast_pos, Nat.pos_iff_ne_zero]
    simp
  | false => simp [not_lt.mpr hnonneg]

/-- The signed hundredths that are printed. -/
def roundedHundredths (d : Decimal) : ℤ :=
  if d.value < 0 then -(hundredths d : ℤ) else hundredths d

theorem natAbs_roundedHundredths (d : Decimal) : (roundedHundredths d).natAbs = hundredths d := by
  unfold roundedHundredths
  split
  · rw [Int.natAbs_neg, Int.natAbs_natCast]
  · exact Int.natAbs_natCast _

theorem roundsAway_iff {d : Decimal} {n : ℤ} :
    RoundsAway (100 * d.value) n ↔ n = roundedHundredths d := by
  have hround := roundsAway_hundredths d
  simp only [negative_eq_decide, decide_eq_true_eq] at hround
  constructor
  · exact fun h => h.unique hround
  · rintro rfl
    exact hround

theorem isKronor_value (d : Decimal) :
    IsKronor (d.value < 0) (roundedHundredths d).natAbs (kronor d).toList := by
  rw [natAbs_roundedHundredths, isKronor_iff, ← negative_eq_decide, kronor, String.toList_ofList]
  rfl

/-- **How an amount is printed**: with the digits of its hundredths, rounded, a half away from zero,
and with a minus sign if it is negative. This is the text of the rounded amount, except for a negative
amount that is rounded to zero, which keeps its sign. Two amounts are printed alike just if they are
rounded alike and both or neither are negative. -/
theorem isKronor_kronor (d : Decimal) : ∃ n : ℤ, RoundsAway (100 * d.value) n ∧
    IsKronor (d.value < 0) n.natAbs (kronor d).toList ∧
    (IsKronor (n < 0) n.natAbs (kronor d).toList ↔ ¬ (n = 0 ∧ d.value < 0)) ∧
    ∀ b : Decimal, kronor b = kronor d ↔
      RoundsAway (100 * b.value) n ∧ (b.value < 0 ↔ d.value < 0) := by
  refine ⟨roundedHundredths d, roundsAway_iff.mpr rfl, isKronor_value d, ?_, fun b => ?_⟩
  · -- the two texts are the same just if their signs are
    have hsign : IsKronor (roundedHundredths d < 0) (roundedHundredths d).natAbs (kronor d).toList ↔
        (roundedHundredths d < 0 ↔ d.value < 0) := by
      constructor
      · exact fun h => decide_eq_decide.mp (h.unique (isKronor_value d)).1
      · intro h
        rw [decide_eq_decide.mpr h]
        exact isKronor_value d
    rw [hsign]
    unfold roundedHundredths
    by_cases hneg : d.value < 0
    · simp only [hneg, if_true, iff_true, and_true]
      omega
    · simp only [hneg, if_false, iff_false, and_false, not_false_eq_true, iff_true]
      omega
  · rw [roundsAway_iff]
    constructor
    · intro h
      have hb := isKronor_value b
      rw [h] at hb
      obtain ⟨hsign, habs⟩ := hb.unique (isKronor_value d)
      have hiff := decide_eq_decide.mp hsign
      rw [natAbs_roundedHundredths, natAbs_roundedHundredths] at habs
      refine ⟨?_, hiff⟩
      simp only [roundedHundredths, habs, hiff]
    · rintro ⟨hround, hiff⟩
      have hb := isKronor_value b
      rw [← hround, decide_eq_decide.mpr hiff] at hb
      exact String.toList_inj.mp
        ((isKronor_iff.mp hb).trans (isKronor_iff.mp (isKronor_value d)).symm)

/-- An amount between zero and half an öre below it is printed with a sign. -/
example : kronor ⟨true, 4, 3, by decide, by decide⟩ = "-0,00 kr" := by cbv

end PostingRules
