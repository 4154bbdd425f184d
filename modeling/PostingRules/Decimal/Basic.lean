/-!
# Decimal numbers

A decimal number has a sign, a mantissa below `2 ^ 96` and a scale of at most 28 fraction digits.
Numbers that differ in their scale alone compare as equal and print differently.

* `tenTo`, `Decimal`, `Decimal.make?`, `Decimal.num`;
* `Decimal.le`, `Decimal.lt`: the order of the numeric values;
* `divHalfUp`, `Decimal.roundTo`: rounding, a half away from zero;
* `Decimal.text`: the number with all digits of its scale.
-/

namespace PostingRules

/-- The largest mantissa, `2 ^ 96 - 1`. -/
def maxMantissa : Nat := 79228162514264337593543950335

/-- The largest scale. -/
def maxScale : Nat := 28

/-- A power of ten. -/
def tenTo (k : Nat) : Nat := Nat.pow 10 k

theorem tenTo_pos (k : Nat) : 0 < tenTo k := Nat.pow_pos (by decide)

/-- The number `mantissa / 10 ^ scale`, negated if `negative`. -/
structure Decimal where
  negative : Bool
  mantissa : Nat
  scale : Nat
  mantissa_le : mantissa ≤ maxMantissa
  scale_le : scale ≤ maxScale
  deriving DecidableEq, Repr

namespace Decimal

/-- The number of these parts, if they fit; zero has no sign. -/
def make? (negative : Bool) (mantissa scale : Nat) : Option Decimal :=
  if h : mantissa ≤ maxMantissa ∧ scale ≤ maxScale then
    some ⟨negative && mantissa != 0, mantissa, scale, h.1, h.2⟩
  else none

/-- Zero. -/
def zero : Decimal := ⟨false, 0, 0, Nat.zero_le _, Nat.zero_le _⟩

/-- The signed mantissa. -/
def num (d : Decimal) : Int := if d.negative then -(d.mantissa : Int) else d.mantissa

/-- The order of the numeric values. -/
def le (a b : Decimal) : Prop := a.num * tenTo b.scale ≤ b.num * tenTo a.scale

/-- The strict order of the numeric values. -/
def lt (a b : Decimal) : Prop := a.num * tenTo b.scale < b.num * tenTo a.scale

instance : LE Decimal := ⟨le⟩
instance : LT Decimal := ⟨lt⟩

instance (a b : Decimal) : Decidable (a ≤ b) :=
  inferInstanceAs (Decidable (a.num * tenTo b.scale ≤ b.num * tenTo a.scale))

instance (a b : Decimal) : Decidable (a < b) :=
  inferInstanceAs (Decidable (a.num * tenTo b.scale < b.num * tenTo a.scale))

end Decimal

/-! ## Rounding -/

/-- `m / 10 ^ k`, rounded to the nearest integer, a half upwards. -/
def divHalfUp (m k : Nat) : Nat := (m + tenTo k / 2) / tenTo k

theorem divHalfUp_le (m k : Nat) : divHalfUp m k ≤ m := by
  unfold divHalfUp
  have hp := tenTo_pos k
  rw [Nat.div_le_iff_le_mul_add_pred hp]
  rcases Nat.eq_zero_or_pos m with rfl | hm
  · omega
  · have : m * 1 ≤ tenTo k * m := by rw [Nat.mul_comm]; exact Nat.mul_le_mul_right m hp
    have : tenTo k / 2 ≤ tenTo k - 1 := by omega
    omega

namespace Decimal

/-- The number with at most `places` fraction digits, a half rounded away from zero. -/
def roundTo (places : Nat) (d : Decimal) : Decimal :=
  if h : d.scale ≤ places then d
  else
    { negative := d.negative
      mantissa := divHalfUp d.mantissa (d.scale - places)
      scale := places
      mantissa_le := Nat.le_trans (divHalfUp_le _ _) d.mantissa_le
      scale_le := Nat.le_trans (Nat.le_of_lt (Nat.lt_of_not_le h)) d.scale_le }

/-! ## Digits -/

/-- The decimal digits of `n`, with zeros in front up to `width` of them. -/
def digits (width n : Nat) : List Char :=
  let ds := Nat.toDigits 10 n
  List.replicate (width - ds.length) '0' ++ ds

/-- The digits of the magnitude: those of the integer part, then those of the fraction. -/
def magnitude (d : Decimal) : List Char × List Char :=
  (digits 1 (d.mantissa / tenTo d.scale),
    if d.scale = 0 then [] else digits d.scale (d.mantissa % tenTo d.scale))

/-- The number with all digits of its scale and a point before the fraction. -/
def text (d : Decimal) : String :=
  let (whole, fraction) := d.magnitude
  String.ofList ((if d.negative then ['-'] else []) ++ whole ++
    if fraction.isEmpty then [] else '.' :: fraction)

end Decimal

end PostingRules
