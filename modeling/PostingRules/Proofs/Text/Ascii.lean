import PostingRules.Pattern.CharSet
import PostingRules.Proofs.Text.CaseRuns

/-!
# Letter case in ASCII

Among the characters of ASCII, lower case and case folding are the distance of 32 between the capital
and the small letters.

* `toNat_asciiLower`: the lower-case form of an ASCII character, as a code point;
* **`lowerList_ascii`**: the lower-case form of an ASCII text, character by character;
* **`mem_foldClass_ascii_iff`**: two ASCII characters are equal under case folding just if their
  lower-case forms are;
* `has_folded_single_ascii_iff`: the set of one character, with its other case.
-/

namespace PostingRules.Text

open Property

variable {c d : Char}

theorem toNat_asciiLower (c : Char) :
    (asciiLower c).toNat = if 65 ≤ c.toNat ∧ c.toNat ≤ 90 then c.toNat + 32 else c.toNat := by
  have hcapital : 'A' ≤ c ∧ c ≤ 'Z' ↔ 65 ≤ c.toNat ∧ c.toNat ≤ 90 := Iff.rfl
  rw [asciiLower]
  simp only [hcapital]
  split
  · next h => exact Utf8.toNat_ofNat_of_valid (by omega)
  · rfl

theorem asciiLower_eq_iff : asciiLower c = asciiLower d ↔
    (asciiLower c).toNat = (asciiLower d).toNat := Char.toNat_inj.symm

/-! ## Runs from ASCII -/

/-- The first run of lower case, and the first six of case folding, hold all of ASCII that is on any. -/
theorem runs_beyond_ascii : lowerRuns.tail.all (fun r => 128 ≤ r.first) = true ∧
    (foldRuns.drop 6).all (fun r => 128 ≤ r.first) = true := by
  decide +kernel

theorem shift?_eq_none_of_lt {r : CaseRun} {n : Nat} (h : n < r.first) : r.shift? n = none := by
  rw [CaseRun.shift?, if_neg]
  omega

theorem lowerOne_ascii (hc : c.toNat < 128) : lowerOne c = asciiLower c := by
  have htail : lowerRuns.tail.findSome? (·.shift? c.toNat) = none := by
    refine List.findSome?_eq_none_iff.mpr fun r hr => shift?_eq_none_of_lt ?_
    have hfirst := List.all_eq_true.mp runs_beyond_ascii.1 r hr
    rw [decide_eq_true_eq] at hfirst
    omega
  have hruns : lowerRuns = ⟨0x41, 0x5a, 1, 32⟩ :: lowerRuns.tail := rfl
  have hcapital : 'A' ≤ c ∧ c ≤ 'Z' ↔ 65 ≤ c.toNat ∧ c.toNat ≤ 90 := Iff.rfl
  have hshift : ((c.toNat : Int) + 32).toNat = c.toNat + 32 := by omega
  rw [lowerOne, hruns, List.findSome?_cons, htail, CaseRun.shift?, asciiLower]
  simp only [hcapital, Nat.mod_one, and_true, hshift]
  by_cases h : 65 ≤ c.toNat ∧ c.toNat ≤ 90
  · rw [if_pos h, if_pos h]
  · rw [if_neg h, if_neg h]

theorem lowerAt_ascii (hc : c.toNat < 128) (before after : List Char) :
    lowerAt before c after = [asciiLower c] := by
  have hsigma : c ≠ 'Σ' := by
    rintro rfl
    exact absurd hc (by decide)
  have hi : c ≠ 'İ' := by
    rintro rfl
    exact absurd hc (by decide)
  rw [lowerAt, if_neg hsigma, lowerChar, if_neg hi, lowerOne_ascii hc]

/-- **The lower-case form of an ASCII text.** -/
theorem lowerList_ascii {cs : List Char} (h : ∀ c ∈ cs, c.toNat < 128) :
    lowerList cs = cs.map asciiLower :=
  lowerAfter_eq_map fun c hc => lowerAt_ascii (h c hc)

/-! ## Case folding -/

theorem mem_foldPartners_iff : d ∈ foldPartners c ↔
    ∃ r ∈ foldRuns, ∃ n, r.shift? c.toNat = some n ∧ Char.ofNat n = d := by
  simp only [foldPartners, List.mem_filterMap, Option.map_eq_some_iff]

theorem mem_take_of_shift? {r : CaseRun} {n m : Nat} (hr : r ∈ foldRuns) (hn : n < 128)
    (h : r.shift? n = some m) : r ∈ foldRuns.take 6 := by
  rw [← List.take_append_drop 6 foldRuns, List.mem_append] at hr
  refine hr.resolve_right fun hdrop => ?_
  have hfirst := List.all_eq_true.mp runs_beyond_ascii.2 r hdrop
  rw [decide_eq_true_eq] at hfirst
  rw [shift?_eq_none_of_lt (by omega)] at h
  cases h

theorem take_foldRuns : foldRuns.take 6 = [⟨0x41, 0x5a, 1, 32⟩, ⟨0x4b, 0x4b, 1, 8415⟩,
    ⟨0x53, 0x53, 1, 300⟩, ⟨0x61, 0x7a, 1, -32⟩, ⟨0x6b, 0x6b, 1, 8383⟩, ⟨0x73, 0x73, 1, 268⟩] := rfl

/-- A run leads from a letter of ASCII to its other case, or out of ASCII. -/
theorem toNat_of_shift? {r : CaseRun} {n m : Nat} (hr : r ∈ foldRuns) (hn : n < 128)
    (h : r.shift? n = some m) (hm : (Char.ofNat m).toNat < 128) :
    (65 ≤ n ∧ n ≤ 90 ∧ (Char.ofNat m).toNat = n + 32) ∨
      (97 ≤ n ∧ n ≤ 122 ∧ n = (Char.ofNat m).toNat + 32) := by
  have hmem := mem_take_of_shift? hr hn h
  have hlands : (foldRuns.take 6).all CaseRun.lands = true := by decide
  rw [CaseRun.toNat_ofNat_of_lands (List.all_eq_true.mp hlands r hmem) h] at hm ⊢
  obtain ⟨⟨hfirst, hlast, -⟩, rfl⟩ := CaseRun.shift?_eq_some_iff.mp h
  simp only [take_foldRuns, List.mem_cons, List.not_mem_nil, or_false] at hmem
  rcases hmem with rfl | rfl | rfl | rfl | rfl | rfl <;> simp only at hfirst hlast hm ⊢ <;> omega

/-- **Two ASCII characters are equal under case folding** just if their lower-case forms are. -/
theorem mem_foldClass_ascii_iff (hc : c.toNat < 128) (hd : d.toNat < 128) :
    d ∈ foldClass c ↔ asciiLower c = asciiLower d := by
  have hrun : ∀ r ∈ foldRuns.take 6, r.shift? c.toNat = some d.toNat → d ∈ foldPartners c :=
    fun r hr h => mem_foldPartners_iff.mpr
      ⟨r, List.mem_of_mem_take hr, d.toNat, h, Char.ofNat_toNat d⟩
  rw [foldClass, List.mem_cons, asciiLower_eq_iff, toNat_asciiLower, toNat_asciiLower]
  constructor
  · rintro (rfl | hpartner)
    · rfl
    · obtain ⟨r, hr, n, hn, rfl⟩ := mem_foldPartners_iff.mp hpartner
      have hcase := toNat_of_shift? hr hc hn hd
      split_ifs <;> omega
  · intro h
    by_cases heq : c.toNat = d.toNat
    · exact .inl (Char.toNat_inj.mp heq.symm)
    refine .inr ?_
    split_ifs at h
    · omega
    · refine hrun ⟨0x41, 0x5a, 1, 32⟩ (by simp [take_foldRuns]) ?_
      simp only [CaseRun.shift?_eq_some_iff]
      omega
    · refine hrun ⟨0x61, 0x7a, 1, -32⟩ (by simp [take_foldRuns]) ?_
      simp only [CaseRun.shift?_eq_some_iff]
      omega
    · omega

theorem has_single_iff : (CharSet.single c).has d = true ↔ d = c := by
  rw [CharSet.single, CharSet.has, Bool.and_eq_true, decide_eq_true_eq, decide_eq_true_eq]
  exact ⟨fun h => Char.le_antisymm h.2 h.1, fun h => h ▸ ⟨Char.le_refl _, Char.le_refl _⟩⟩

/-- **The set of one character**, with its other case. -/
theorem has_folded_single_ascii_iff (hc : c.toNat < 128) (hd : d.toNat < 128) :
    (CharSet.folded (.single c)).has d = true ↔ asciiLower d = asciiLower c := by
  rw [CharSet.has, List.any_eq_true, ← mem_foldClass_ascii_iff hd hc]
  constructor
  · rintro ⟨x, hx, h⟩
    rwa [← has_single_iff.mp h]
  · exact fun h => ⟨c, h, has_single_iff.mpr rfl⟩

end PostingRules.Text
