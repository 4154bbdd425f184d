import PostingRules.Pattern.Bracket
import PostingRules.Proofs.Pattern.Escapes
import PostingRules.Proofs.Pattern.Plain

/-!
# How far classes reach

Outside verbose mode, the reader and the screening see a plain class end at the same bracket.

* `Inert`: characters that open and close no bracket;
* `Passes`: the reader takes a part of a class, and the class ends at the same place;
* `passes_of_readMember`, `passes_of_readNamedClass`, `passes_openClass`: one step of the reader;
* `drop_of_readClassFrom`: the rest of a class, with the classes open around it;
* **`drop_classLength_of_readClass`**: a whole class.
-/

namespace PostingRules.PatternReader

open PostingRules.Text PostingRules.Guard

variable {f : Flags}

/-- Characters that keep the number of open brackets, and plainness behind them. -/
def Inert (w : List Char) : Prop := ∀ depth cs,
  classTail depth (w ++ cs) = w.length + classTail depth cs ∧
    (plainTail depth (w ++ cs) = true → plainTail depth cs = true)

theorem classTail_cons {depth : Nat} {c : Char} {cs : List Char} (h₁ : c ≠ '\\') (h₂ : c ≠ '[')
    (h₃ : c ≠ ']') : classTail depth (c :: cs) = classTail depth cs + 1 := by
  rw [classTail.eq_def]
  split <;> simp_all

theorem plainTail_cons {depth : Nat} {c : Char} {cs : List Char} (h₁ : c ≠ '\\') (h₂ : c ≠ '[')
    (h₃ : c ≠ ']') (h₄ : c ≠ '-') : plainTail depth (c :: cs) = plainTail depth cs := by
  rw [plainTail.eq_def]
  split <;> simp_all

theorem plainTail_dash {depth : Nat} {cs : List Char} (h : cs.head? ≠ some '-')
    (hp : plainTail depth ('-' :: cs) = true) : plainTail depth cs = true := by
  rw [plainTail.eq_def] at hp
  split at hp <;> simp_all

theorem Inert.nil : Inert [] := fun _ _ => ⟨by simp, id⟩

theorem Inert.append {w v : List Char} (hw : Inert w) (hv : Inert v) : Inert (w ++ v) := by
  intro depth cs
  obtain ⟨hlen, hplain⟩ := hw depth (v ++ cs)
  obtain ⟨hlen', hplain'⟩ := hv depth cs
  rw [List.append_assoc, List.length_append, hlen, hlen', Nat.add_assoc]
  exact ⟨rfl, hplain' ∘ hplain⟩

theorem inert_single {c : Char} (h : c ≠ '\\' ∧ c ≠ '[' ∧ c ≠ ']' ∧ c ≠ '-') : Inert [c] := by
  obtain ⟨h₁, h₂, h₃, h₄⟩ := h
  intro depth cs
  rw [List.singleton_append, classTail_cons h₁ h₂ h₃, plainTail_cons h₁ h₂ h₃ h₄,
    List.length_singleton, Nat.add_comm]
  exact ⟨rfl, id⟩

theorem inert_dashes : Inert ['-', '-'] := fun depth cs =>
  ⟨by simp [classTail]; omega, by simp [plainTail]⟩

/-- A dash in front of a member. -/
theorem Inert.dash {c : Char} {w : List Char} (h : Inert (c :: w)) (hd : c ≠ '-') :
    Inert ('-' :: c :: w) := by
  intro depth cs
  obtain ⟨hlen, hplain⟩ := h depth cs
  refine ⟨?_, fun hp => hplain (plainTail_dash (by simpa using hd) hp)⟩
  rw [List.cons_append, classTail_cons (by decide) (by decide) (by decide), hlen]
  simp only [List.length_cons]
  omega

theorem InBraces.inert {c : Char} (h : InBraces c) (hd : c ≠ '-') : Inert [c] := by
  obtain ⟨hs, hb, -⟩ := h
  have hne : ∀ d ∈ specials, c ≠ d := fun d hd hcd => hs (hcd ▸ hd)
  exact inert_single ⟨hne _ (by decide), hne _ (by decide), hb, hd⟩

theorem inert_of_isAlphanum {w : List Char} (h : ∀ c ∈ w, c.isAlphanum = true) : Inert w := by
  induction w with
  | nil => exact .nil
  | cons c w ih =>
    rw [List.forall_mem_cons] at h
    have hd : c ≠ '-' := by
      rintro rfl
      exact absurd h.1 (by decide)
    exact ((inBraces_of_isAlphanum h.1).inert hd).append (ih h.2)

/-- What stands in braces may have dashes, since no bracket follows. -/
theorem inert_of_inBraces {w : List Char} (h : ∀ c ∈ w, InBraces c) : Inert (w ++ ['}']) := by
  -- Two dashes are taken together, so the induction is on the length.
  induction hn : w.length using Nat.strong_induction_on generalizing w with
  | h n ih =>
    have hend : Inert ['}'] := inert_single (by decide)
    cases w with
    | nil => exact hend
    | cons c w =>
      rw [List.forall_mem_cons] at h
      have hw := ih w.length (by simp [← hn]) h.2 rfl
      by_cases hc : c = '-'
      · subst hc
        cases w with
        | nil => exact hend.dash (by decide)
        | cons d w =>
          by_cases hd : d = '-'
          · subst hd
            have hlt : w.length < n := by
              rw [← hn, List.length_cons, List.length_cons]
              omega
            exact inert_dashes.append (ih w.length hlt (List.forall_mem_cons.mp h.2).2 rfl)
          · exact hw.dash hd
      · exact (h.1.inert hc).append hw

theorem EscapeTail.inert {w : List Char} (h : EscapeTail w) : Inert w := by
  cases h with
  | word h => exact inert_of_isAlphanum h
  | braced h =>
    have hopen : Inert ['{'] := inert_single (by decide)
    exact hopen.append (inert_of_inBraces h)

/-- An item of a class and what it takes: an escape, or a character alone. -/
def IsItem (e : Escaped) (c : Char) (w : List Char) : Prop :=
  (c = '\\' ∧ Inert (c :: w)) ∨ (c ≠ '\\' ∧ w = [] ∧ e = .char c)

theorem IsItem.inert {e : Escaped} {c : Char} {w : List Char} (h : IsItem e c w) (ho : c ≠ '[')
    (hc : c ≠ ']') (hd : c ≠ '-') : Inert (c :: w) := by
  rcases h with ⟨-, hw⟩ | ⟨hne, rfl, -⟩
  · exact hw
  · exact inert_single ⟨hne, ho, hc, hd⟩

/-- The reader takes from `cs` to `rest` in a class, with the two depths of brackets open there: the
class ends at the same place, and is plain behind. -/
def Passes (depth : Nat) (cs : List Char) (depth' : Nat) (rest : List Char) : Prop :=
  cs.drop (classTail depth cs) = rest.drop (classTail depth' rest) ∧ plainTail depth' rest = true

theorem Inert.passes {depth : Nat} {w rest : List Char} (h : Inert w)
    (hp : plainTail depth (w ++ rest) = true) : Passes depth (w ++ rest) depth rest := by
  obtain ⟨hlen, hplain⟩ := h depth rest
  exact ⟨by rw [hlen, ← List.drop_drop, List.drop_left], hplain hp⟩

theorem Passes.trans {d₁ d₂ d₃ : Nat} {a b c : List Char} (h : Passes d₁ a d₂ b)
    (h' : Passes d₂ b d₃ c) : Passes d₁ a d₃ c := ⟨h.1.trans h'.1, h'.2⟩

theorem passOver_of_ne {c : Char} {cs : List Char} (h : cs.head? ≠ some c) :
    passOver c cs = (0, cs) := by
  cases cs with
  | nil => rfl
  | cons x cs => exact if_neg (by simpa using h)

end PostingRules.PatternReader
