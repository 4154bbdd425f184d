/-!
# Integers in decimal digits

* `digit?`: the value of an ASCII digit;
* `NumberError`: why a text is no integer of the wanted size;
* `readDigits`, `readNat`, `readInt`: digits alone, an unsigned integer up to a bound, and a signed
  64-bit integer.
-/

namespace PostingRules.Text

/-- The value of an ASCII digit. -/
def digit? (c : Char) : Option Nat :=
  if '0' ≤ c ∧ c ≤ '9' then some (c.toNat - '0'.toNat) else none

/-- Is the character an ASCII digit? -/
def isDigit (c : Char) : Bool := (digit? c).isSome

/-- Why a text is no integer of the wanted size. -/
inductive NumberError
  | empty
  | badDigit
  | tooLarge
  | tooSmall
  deriving DecidableEq, Repr

/-- The wording of a number error. -/
def NumberError.message : NumberError → String
  | .empty => "cannot parse integer from empty string"
  | .badDigit => "invalid digit found in string"
  | .tooLarge => "number too large to fit in target type"
  | .tooSmall => "number too small to fit in target type"

/-- The number that `n` becomes when the digits are written behind it. Of a bad digit and a number
over the bound the one further left is reported, and `excess` names the second. -/
def readDigits (bound : Nat) (excess : NumberError) (n : Nat) : List Char → Except NumberError Nat
  | [] => .ok n
  | c :: rest =>
    match digit? c with
    | none => .error .badDigit
    | some d =>
      if 10 * n + d ≤ bound then readDigits bound excess (10 * n + d) rest else .error excess

/-- A digit string that may not be empty. -/
def readSome (bound : Nat) (excess : NumberError) : List Char → Except NumberError Nat
  | [] => .error .badDigit
  | cs => readDigits bound excess 0 cs

/-- An unsigned integer up to `bound`: digits, with a plus sign or without. -/
def readNat (bound : Nat) : List Char → Except NumberError Nat
  | [] => .error .empty
  | '+' :: cs => readSome bound .tooLarge cs
  | cs => readSome bound .tooLarge cs

/-- The largest 64-bit integer, `2 ^ 63 - 1`. -/
def maxInt64 : Nat := 9223372036854775807

/-- The largest unsigned 32-bit integer, `2 ^ 32 - 1`. -/
def maxNat32 : Nat := 4294967295

/-- A signed 64-bit integer: digits, with a sign or without. -/
def readInt : List Char → Except NumberError Int
  | [] => .error .empty
  | '+' :: cs => (readSome maxInt64 .tooLarge cs).map Int.ofNat
  | '-' :: cs => (readSome (maxInt64 + 1) .tooSmall cs).map fun n => -(n : Int)
  | cs => (readSome maxInt64 .tooLarge cs).map Int.ofNat

end PostingRules.Text
