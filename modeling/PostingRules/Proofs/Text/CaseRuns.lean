import PostingRules.Proofs.Text.Lowercase
import PostingRules.Proofs.Text.Utf8

/-!
# Lower case taken twice

No code point has a lower-case form that has one itself. Where the runs of the table send their code
points is compared run by run.

* `CaseRun.shift?_eq_some_iff`: the code points on a run;
* `CaseRun.lands`, `CaseRun.avoids`: a run sends its code points to characters, and to none of another
  run;
* `IsLowered`: a character that is its own lower-case form wherever it stands;
* **`lowerList_lowerList`**: a text in lower case is its own lower-case form.
-/

namespace PostingRules.Text

/-! ## Runs -/

namespace CaseRun

variable {r r' : CaseRun} {n m : Nat}

theorem shift?_eq_some_iff : r.shift? n = some m ↔
    (r.first ≤ n ∧ n ≤ r.last ∧ (n - r.first) % r.step = 0) ∧ (n + r.shift).toNat = m := by
  rw [shift?]
  split
  · next h => simp [h]
  · next h => simp [h]

/-- Are all code points of the run sent to characters? -/
def lands (r : CaseRun) : Bool :=
  0 ≤ r.first + r.shift &&
    (r.last + r.shift < 0xD800 || (0xDFFF < r.first + r.shift && r.last + r.shift < 0x110000))

/-- Where the run sends its first code point. -/
def start (r : CaseRun) : Nat := (r.first + r.shift).toNat

/-- Where the run sends its last code point. -/
def stop (r : CaseRun) : Nat := (r.last + r.shift).toNat

/-- Is no code point of the run sent onto the run `r'`? They pass each other, or both hold every second
code point and differ in parity. -/
def avoids (r r' : CaseRun) : Bool :=
  -- comparisons that the kernel computes itself, for the table has many pairs of runs
  r.stop.blt r'.first || r'.last.blt r.start ||
    ((r.first.beq r.last || r.step.beq 2) && r'.step.beq 2 && ((r.start + r'.first) % 2).beq 1)

/-- The run of one code point. -/
def point (n : Nat) : CaseRun := ⟨n, n, 2, 0⟩

theorem shift?_point (n : Nat) : (point n).shift? n = some n := by
  rw [shift?_eq_some_iff]
  simp [point]

theorem toNat_ofNat_of_lands (hr : r.lands = true) (h : r.shift? n = some m) :
    (Char.ofNat m).toNat = m := by
  obtain ⟨⟨hfirst, hlast, -⟩, rfl⟩ := shift?_eq_some_iff.mp h
  simp only [lands, Bool.and_eq_true, Bool.or_eq_true, decide_eq_true_eq] at hr
  exact Utf8.toNat_ofNat_of_valid (by omega)

/-- **A run that avoids another one** sends nothing onto it. -/
theorem shift?_eq_none_of_avoids (hr : r.lands = true) (ha : r.avoids r' = true)
    (h : r.shift? n = some m) : r'.shift? m = none := by
  obtain ⟨⟨hfirst, hlast, hstep⟩, rfl⟩ := shift?_eq_some_iff.mp h
  simp only [lands, Bool.and_eq_true, Bool.or_eq_true, decide_eq_true_eq] at hr
  simp only [avoids, start, stop, Bool.and_eq_true, Bool.or_eq_true, Nat.blt_eq, Nat.beq_eq] at ha
  rw [Option.eq_none_iff_forall_ne_some]
  intro k hk
  obtain ⟨⟨hfirst', hlast', hstep'⟩, -⟩ := shift?_eq_some_iff.mp hk
  rcases ha with (hbefore | hbehind) | ⟨⟨hone | htwo, htwo'⟩, hodd⟩
  · omega
  · omega
  · rw [htwo'] at hstep'
    omega
  · rw [htwo] at hstep
    rw [htwo'] at hstep'
    omega

end CaseRun

/-- The runs of lower case send their code points to characters off the runs, and none to `İ`. -/
theorem lowerRuns_apart : (lowerRuns.all fun r =>
    r.lands && (CaseRun.point 'İ'.toNat :: lowerRuns).all r.avoids) = true := by
  decide +kernel

/-! ## Characters -/

/-- The character is its own lower-case form wherever it stands. -/
def IsLowered (c : Char) : Prop := c ≠ 'Σ' ∧ c ≠ 'İ' ∧ lowerOne c = c

instance (c : Char) : Decidable (IsLowered c) := by unfold IsLowered; infer_instance

theorem lowerOne_eq_self_of_shift? {c : Char} (h : ∀ r ∈ lowerRuns, r.shift? c.toNat = none) :
    lowerOne c = c := by
  have hnone : lowerRuns.findSome? (·.shift? c.toNat) = none := List.findSome?_eq_none_iff.mpr h
  rw [lowerOne, hnone]

theorem isLowered_of_shift? {r : CaseRun} {n m : Nat} (hr : r ∈ lowerRuns) (h : r.shift? n = some m) :
    IsLowered (Char.ofNat m) := by
  have hapart := List.all_eq_true.mp lowerRuns_apart r hr
  rw [Bool.and_eq_true, List.all_cons, Bool.and_eq_true, List.all_eq_true] at hapart
  obtain ⟨hlands, hdotted, havoids⟩ := hapart
  have hm := CaseRun.toNat_ofNat_of_lands hlands h
  have hoff : ∀ r' ∈ lowerRuns, r'.shift? (Char.ofNat m).toNat = none := fun r' hr' => by
    rw [hm]
    exact CaseRun.shift?_eq_none_of_avoids hlands (havoids r' hr') h
  have hself := lowerOne_eq_self_of_shift? hoff
  refine ⟨fun hsigma => ?_, fun hi => ?_, hself⟩
  · rw [hsigma] at hself
    exact absurd hself (by decide +kernel)
  · have hnone := CaseRun.shift?_eq_none_of_avoids hlands hdotted h
    rw [← hm, hi, CaseRun.shift?_point] at hnone
    cases hnone

theorem isLowered_lowerOne {c : Char} (hsigma : c ≠ 'Σ') (hi : c ≠ 'İ') : IsLowered (lowerOne c) := by
  unfold lowerOne
  split
  · next n h =>
    obtain ⟨r, hr, hshift⟩ := List.exists_of_findSome?_eq_some h
    exact isLowered_of_shift? hr hshift
  · next h =>
    exact ⟨hsigma, hi, lowerOne_eq_self_of_shift? (List.findSome?_eq_none_iff.mp h)⟩

/-- **The lower-case form of a character** has none of its own, whatever stands around it. -/
theorem isLowered_of_mem_lowerAt {before after : List Char} {c x : Char}
    (h : x ∈ lowerAt before c after) : IsLowered x := by
  unfold lowerAt at h
  split at h
  · obtain rfl := List.mem_singleton.mp h
    rw [lowerSigma_eq]
    split <;> decide +kernel
  · next hsigma =>
    unfold lowerChar at h
    split at h
    · simp only [List.mem_cons, List.not_mem_nil, or_false] at h
      rcases h with rfl | rfl <;> decide +kernel
    · next hi =>
      obtain rfl := List.mem_singleton.mp h
      exact isLowered_lowerOne hsigma hi

theorem IsLowered.lowerAt {c : Char} (h : IsLowered c) (before after : List Char) :
    lowerAt before c after = [c] := by
  obtain ⟨hsigma, hi, hself⟩ := h
  rw [Text.lowerAt, if_neg hsigma, lowerChar, if_neg hi, hself]

/-! ## Texts -/

theorem isLowered_of_mem_lowerAfter {before cs : List Char} {x : Char}
    (h : x ∈ lowerAfter before cs) : IsLowered x := by
  induction cs generalizing before with
  | nil => cases h
  | cons c cs ih =>
    rw [lowerAfter_cons, List.mem_append] at h
    exact h.elim isLowered_of_mem_lowerAt ih

/-- **A text in lower case** is its own lower-case form. -/
theorem lowerList_lowerList (cs : List Char) : lowerList (lowerList cs) = lowerList cs := by
  have hlowered : ∀ c ∈ lowerList cs, ∀ before after, lowerAt before c after = [id c] :=
    fun c hc => (isLowered_of_mem_lowerAfter hc).lowerAt
  exact (lowerAfter_eq_map hlowered).trans (List.map_id _)

end PostingRules.Text
