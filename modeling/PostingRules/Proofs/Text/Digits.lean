import PostingRules.Text.Digits
import PostingRules.Text.Blank

/-!
# Numerals

* `IsNumeral`: digits, with a plus sign or without, and their value;
* `readDigits_eq_ok_iff`: what is read off a run of digits;
* **`readNat_eq_ok_iff`**: a number is read off exactly the numerals up to the bound.
-/

namespace PostingRules.Text

/-- The text is a row of ASCII digits with the value `n`, behind a plus sign or without one. -/
def IsNumeral (cs : List Char) (n : Nat) : Prop :=
  ∃ ds, (cs = ds ∨ cs = '+' :: ds) ∧ ds ≠ [] ∧ (∀ c ∈ ds, c.isDigit = true) ∧
    n = Nat.ofDigitChars 10 ds 0

theorem isDigit_iff {c : Char} : c.isDigit = true ↔ '0' ≤ c ∧ c ≤ '9' := by
  rw [Char.isDigit, Bool.and_eq_true, decide_eq_true_eq, decide_eq_true_eq]
  rfl

theorem digit?_of_isDigit {c : Char} (h : c.isDigit = true) :
    digit? c = some (c.toNat - '0'.toNat) := by
  rw [digit?, if_pos (isDigit_iff.mp h)]

theorem digit?_eq_none {c : Char} (h : ¬ c.isDigit = true) : digit? c = none := by
  rw [digit?, if_neg (mt isDigit_iff.mpr h)]

theorem isDigit_of_digit? {c : Char} {n : Nat} (h : digit? c = some n) : c.isDigit = true := by
  refine Decidable.byContradiction fun hc => ?_
  rw [digit?_eq_none hc] at h
  cases h

theorem le_ofDigitChars (cs : List Char) (n : Nat) : n ≤ Nat.ofDigitChars 10 cs n := by
  induction cs generalizing n with
  | nil => exact Nat.le_of_eq Nat.ofDigitChars_nil.symm
  | cons c cs ih =>
    rw [Nat.ofDigitChars_cons]
    have := ih (10 * n + (c.toNat - '0'.toNat))
    omega

theorem digitValue_le {c : Char} (h : c.isDigit = true) : c.toNat - '0'.toNat ≤ 9 := by
  have h9 : c.toNat ≤ '9'.toNat := (isDigit_iff.mp h).2
  have : '9'.toNat = 57 := rfl
  have : '0'.toNat = 48 := rfl
  omega

theorem eq_of_digitValue_eq {c d : Char} (hc : c.isDigit = true) (hd : d.isDigit = true)
    (h : c.toNat - '0'.toNat = d.toNat - '0'.toNat) : c = d := by
  have hc0 : '0'.toNat ≤ c.toNat := (isDigit_iff.mp hc).1
  have hd0 : '0'.toNat ≤ d.toNat := (isDigit_iff.mp hd).1
  exact Char.toNat_inj.mp (by omega)

/-- **A run of digits is read** if there are only digits and their value is within the bound. -/
theorem readDigits_eq_ok_iff {bound n m : Nat} {excess : NumberError} {cs : List Char}
    (hn : n ≤ bound) : readDigits bound excess n cs = .ok m ↔
      (∀ c ∈ cs, c.isDigit = true) ∧ m = Nat.ofDigitChars 10 cs n ∧ m ≤ bound := by
  induction cs generalizing n with
  | nil =>
    rw [readDigits, Nat.ofDigitChars_nil, Except.ok.injEq]
    constructor
    · rintro rfl
      exact ⟨fun c hc => absurd hc List.not_mem_nil, rfl, hn⟩
    · rintro ⟨-, rfl, -⟩
      rfl
  | cons c cs ih =>
    by_cases hc : c.isDigit = true
    · rw [readDigits, digit?_of_isDigit hc, Nat.ofDigitChars_cons]
      simp only
      split
      · rename_i hle
        rw [ih hle, List.forall_mem_cons]
        exact ⟨fun h => ⟨⟨hc, h.1⟩, h.2⟩, fun h => ⟨h.1.2, h.2⟩⟩
      · rename_i hlt
        refine ⟨fun h => by simp at h, fun ⟨_, hm, hle⟩ => absurd ?_ hlt⟩
        have := le_ofDigitChars cs (10 * n + (c.toNat - '0'.toNat))
        omega
    · rw [readDigits, digit?_eq_none hc]
      exact ⟨fun h => by simp at h, fun h => absurd (h.1 c List.mem_cons_self) hc⟩

theorem readSome_eq_ok_iff {bound m : Nat} {excess : NumberError} {cs : List Char} :
    readSome bound excess cs = .ok m ↔
      cs ≠ [] ∧ (∀ c ∈ cs, c.isDigit = true) ∧ m = Nat.ofDigitChars 10 cs 0 ∧ m ≤ bound := by
  cases cs with
  | nil => simp [readSome]
  | cons c cs =>
    rw [readSome, readDigits_eq_ok_iff (Nat.zero_le bound)]
    exact ⟨fun h => ⟨List.cons_ne_nil c cs, h⟩, fun h => h.2⟩
    exact fun h => List.cons_ne_nil c cs h

/-- **A number is read** off exactly the numerals up to the bound. -/
theorem readNat_eq_ok_iff {bound n : Nat} {cs : List Char} :
    readNat bound cs = .ok n ↔ IsNumeral cs n ∧ n ≤ bound := by
  unfold readNat
  split
  · refine ⟨fun h => by simp at h, ?_⟩
    rintro ⟨⟨ds, rfl | h, hne, -⟩, -⟩
    · exact absurd rfl hne
    · exact absurd h (by simp)
  · rename_i cs
    rw [readSome_eq_ok_iff]
    constructor
    · rintro ⟨hne, hd, hv, hb⟩
      exact ⟨⟨cs, .inr rfl, hne, hd, hv⟩, hb⟩
    · rintro ⟨⟨ds, rfl | h, hne, hd, hv⟩, hb⟩
      · exact absurd (hd '+' List.mem_cons_self) (by decide)
      · cases h
        exact ⟨hne, hd, hv, hb⟩
  · rename_i hplus
    rw [readSome_eq_ok_iff]
    constructor
    · rintro ⟨hne, hd, hv, hb⟩
      exact ⟨⟨cs, .inl rfl, hne, hd, hv⟩, hb⟩
    · rintro ⟨⟨ds, rfl | h, hne, hd, hv⟩, hb⟩
      · exact ⟨hne, hd, hv, hb⟩
      · exact absurd h (hplus ds)

theorem isBlank_eq_false_of_isDigit {c : Char} (h : c.isDigit = true) : isBlank c = false := by
  have h0 : 48 ≤ c.toNat := (isDigit_iff.mp h).1
  have h9 : c.toNat ≤ 57 := (isDigit_iff.mp h).2
  simp only [isBlank, Bool.or_eq_false_iff, Bool.and_eq_false_iff, decide_eq_false_iff_not,
    beq_eq_false_iff_ne]
  omega

theorem IsNumeral.isBlank_eq_false {cs : List Char} {n : Nat} (h : IsNumeral cs n) :
    ∀ c ∈ cs, isBlank c = false := by
  obtain ⟨ds, rfl | rfl, -, hd, -⟩ := h
  · exact fun c hc => isBlank_eq_false_of_isDigit (hd c hc)
  · intro c hc
    rcases List.mem_cons.mp hc with rfl | hc
    · decide
    · exact isBlank_eq_false_of_isDigit (hd c hc)

end PostingRules.Text
