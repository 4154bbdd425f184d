import PostingRules.Decimal.Basic

/-!
# Amounts in kronor

* `grouped`: the digits of an integer in groups of three;
* **`kronor`**: an amount of money the Swedish way, `-1 234,56 kr`.
-/

namespace PostingRules

/-- The digits of an integer in groups of three from the right, a space between groups. -/
def grouped (n : Nat) : List Char :=
  if n < 1000 then Decimal.digits 1 n
  else grouped (n / 1000) ++ ' ' :: Decimal.digits 3 (n % 1000)
  termination_by n
  decreasing_by omega

/-- The magnitude of an amount in hundredths, a half rounded up. -/
def hundredths (d : Decimal) : Nat :=
  (d.roundTo 2).mantissa * tenTo (2 - (d.roundTo 2).scale)

/-- The characters of an amount in kronor. The sign is that of the amount before rounding. -/
def kronorList (d : Decimal) : List Char :=
  (if d.negative && d.mantissa != 0 then ['-'] else []) ++ grouped (hundredths d / 100) ++
    ',' :: Decimal.digits 2 (hundredths d % 100) ++ [' ', 'k', 'r']

/-- **An amount in kronor**, with a comma, two decimals and the unit. -/
def kronor (d : Decimal) : String := String.ofList (kronorList d)

end PostingRules
