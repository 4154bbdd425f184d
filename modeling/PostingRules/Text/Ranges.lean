/-!
# Sets of code points

* `Ranges`, `Ranges.has`: a set of code points as a list of closed ranges;
* `Ranges.joined`: the same set with as few ranges as it has;
* `Ranges.ofHex`: ranges written in hexadecimal, `41-5A 61-7A AA`.
-/

namespace PostingRules.Text

/-- A set of code points, as closed ranges. -/
abbrev Ranges := List (Nat × Nat)

/-- Does one of the ranges hold the code point? -/
def Ranges.has (r : Ranges) (n : Nat) : Bool := r.any fun p => p.1 ≤ n && n ≤ p.2

/-- Does one of the ranges hold the character? -/
def Ranges.hasChar (r : Ranges) (c : Char) : Bool := r.has c.toNat

/-- Join a range to those before it, the last first. -/
def Ranges.join (r : Ranges) (p : Nat × Nat) : Ranges :=
  match r with
  | q :: r => if p.1 ≤ q.2 + 1 then (q.1, max q.2 p.2) :: r else p :: q :: r
  | [] => [p]

/-- The ranges from the lowest on, with those that touch as one. -/
def Ranges.joined (r : Ranges) : Ranges :=
  ((r.mergeSort fun p q => p.1 ≤ q.1).foldl join []).reverse

/-- The value of a hexadecimal digit. -/
def hexDigit? (c : Char) : Option Nat :=
  if '0' ≤ c ∧ c ≤ '9' then some (c.toNat - '0'.toNat)
  else if 'a' ≤ c ∧ c ≤ 'f' then some (c.toNat - 'a'.toNat + 10)
  else if 'A' ≤ c ∧ c ≤ 'F' then some (c.toNat - 'A'.toNat + 10)
  else none

/-- The ranges read so far, the start of an open range, and the number being read if there is one. -/
structure Ranges.HexScan where
  done : Ranges
  start : Option Nat
  value : Option Nat

/-- Close the range being read. -/
def Ranges.HexScan.close (s : HexScan) : HexScan :=
  match s.value with
  | some n => ⟨(s.start.getD n, n) :: s.done, none, none⟩
  | none => s

/-- Read one character of a list of ranges. -/
def Ranges.HexScan.step (s : HexScan) (c : Char) : HexScan :=
  match hexDigit? c with
  | some d => { s with value := some (16 * s.value.getD 0 + d) }
  | none => if c = '-' then ⟨s.done, s.value, none⟩ else s.close

/-- The ranges of a text such as `41-5A 61-7A AA`: hexadecimal numbers, a range with its two ends,
a single code point alone, blanks between them. -/
def Ranges.ofHex (s : String) : Ranges :=
  (s.toList.foldl HexScan.step ⟨[], none, none⟩).close.done.reverse

end PostingRules.Text
