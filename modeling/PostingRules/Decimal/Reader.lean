import PostingRules.Decimal.Basic
import PostingRules.Text.Digits

/-!
# Reading decimal numbers

A number is written as a sign or none, digits with at most one point among them, and underscores
behind the first digit. Fraction digits are taken in while they fit; the first that does not rounds
the number and the others are ignored. Failing that, a number may be written with an exponent.

* `Decimal.readPlain`: a number without an exponent;
* `Decimal.readScientific`: a number with one;
* **`Decimal.read`**: a number in either form.
-/

namespace PostingRules.Decimal

open PostingRules.Text

/-- What has been read of a number: its mantissa and scale so far, and whether the point and a
digit have been met. -/
structure Scan where
  mantissa : Nat
  scale : Nat
  point : Bool
  digit : Bool
  deriving DecidableEq, Repr

/-- The mantissa and scale that the first fraction digit `d` without room makes of a number. -/
def roundDigit (mantissa scale d : Nat) : Option (Nat × Nat) :=
  if d < 5 then some (mantissa, scale)
  else if mantissa + 1 ≤ maxMantissa then some (mantissa + 1, scale)
  else if scale = 0 then none
  else some ((mantissa + 5) / 10, scale - 1)

/-- May the character stand behind the digits that are taken in? -/
def isTail (c : Char) : Bool := isDigit c || c = '_'

/-- The mantissa and scale of the rest of a number. -/
def scan (s : Scan) : List Char → Option (Nat × Nat)
  | [] => if s.digit then some (s.mantissa, s.scale) else none
  | c :: rest =>
    if c = '.' then
      if s.point then none else scan { s with point := true } rest
    else if c = '_' then
      if s.digit then scan s rest else none
    else
      match digit? c with
      | none => none
      | some d =>
        let m := 10 * s.mantissa + d
        if s.point then
          if s.scale < maxScale ∧ m ≤ maxMantissa then scan ⟨m, s.scale + 1, true, true⟩ rest
          else if rest.all isTail then roundDigit s.mantissa s.scale d
          else none
        else if m ≤ maxMantissa then scan ⟨m, 0, false, true⟩ rest
        else none

/-- The number of a sign and unsigned digits. -/
def readUnsigned (negative : Bool) (cs : List Char) : Option Decimal :=
  (scan ⟨0, 0, false, false⟩ cs).bind fun p => make? negative p.1 p.2

/-- A number without an exponent. -/
def readPlain : List Char → Option Decimal
  | '+' :: cs => readUnsigned false cs
  | '-' :: cs => readUnsigned true cs
  | cs => readUnsigned false cs

/-! ## Exponents -/

/-- `d * 10 ^ -n`: the scale grows by `n`, and digits beyond the largest scale are rounded off. -/
def scaleDown (d : Decimal) (n : Nat) : Option Decimal :=
  if maxScale < n then none
  else if d.scale + n ≤ maxScale then make? d.negative d.mantissa (d.scale + n)
  else make? d.negative (d.roundTo (maxScale - n)).mantissa maxScale

/-- `d * 10 ^ n`: the scale shrinks by `n`, or the number becomes an integer. -/
def scaleUp (d : Decimal) (n : Nat) : Option Decimal :=
  if n ≤ d.scale then make? d.negative d.mantissa (d.scale - n)
  else if maxScale < n then none
  else make? d.negative (d.mantissa * tenTo (n - d.scale)) 0

/-- Does the character begin an exponent? -/
def isExponentMark (c : Char) : Bool := c = 'e' || c = 'E'

/-- A number with an exponent: a number without one, a mark, and an integer. -/
def readScientific (cs : List Char) : Option Decimal :=
  match cs.dropWhile (!isExponentMark ·) with
  | [] => none
  | _ :: exponent =>
    (readPlain (cs.takeWhile (!isExponentMark ·))).bind fun base =>
      match exponent with
      | '-' :: n => (readNat maxNat32 n).toOption.bind (scaleDown base)
      | n => (readNat maxNat32 n).toOption.bind (scaleUp base)

/-- **A number**, without an exponent or with one. -/
def read (cs : List Char) : Option Decimal := (readPlain cs).or (readScientific cs)

/-- The number that a text holds. -/
def ofString? (s : String) : Option Decimal := read s.toList

end PostingRules.Decimal
