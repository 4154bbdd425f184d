/-!
# Arithmetic with 53 significant bits

The operations of double precision, each as the exact rational result rounded to the nearest number
of 53 significant bits. Exponents have no bounds here: no number of this library comes near them.

* `roundEven`: a rational number rounded to an integer, a half to the even neighbour;
* `ulpExponent`: the exponent of the last significant bit;
* **`nearest`**: a rational number rounded to 53 significant bits.
-/

namespace PostingRules.Binary64

/-- The nearest integer, and of two the even one. -/
def roundEven (q : Rat) : Int :=
  let n := q.floor
  if q - n < 1 / 2 then n
  else if 1 / 2 < q - n then n + 1
  else if n % 2 = 0 then n
  else n + 1

/-- The exponent of the last of 53 significant bits of `num / den`, for positive numbers: the
greatest `e` with `2 ^ 52 * 2 ^ e ≤ num / den`. -/
def ulpExponent (num den : Nat) : Int :=
  let e : Int := (num.log2 : Int) - den.log2 - 52
  if (2 : Rat) ^ (e + 52) ≤ mkRat num den then e else e - 1

/-- **The number of 53 significant bits nearest to `q`**, of two the one with an even last bit. -/
def nearest (q : Rat) : Rat :=
  if q = 0 then 0
  else
    let ulp : Rat := 2 ^ ulpExponent q.num.natAbs q.den
    roundEven (q / ulp) * ulp

/-- The nearest integer, a half away from zero. -/
def roundHalfAway (q : Rat) : Int :=
  if 0 ≤ q then (q + 1 / 2).floor else -((-q + 1 / 2).floor)

end PostingRules.Binary64
