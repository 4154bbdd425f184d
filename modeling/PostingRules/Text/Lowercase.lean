import PostingRules.Text.CaseRuns
import PostingRules.Text.CaseContext

/-!
# Lower case and case folding

* `lowerChar`: the full lower-case mapping of a character, taken alone;
* `lowerList`, `lower`: the lower-case form of a text, where a capital sigma depends on its
  neighbours;
* `foldClass`: the characters equal to a character under simple case folding.
-/

namespace PostingRules.Text

/-- The lower-case form of a character, where it is one character. -/
def lowerOne (c : Char) : Char :=
  match lowerRuns.findSome? (·.shift? c.toNat) with
  | some n => Char.ofNat n
  | none => c

/-- The lower-case form of a character taken alone: only `İ` has two characters. -/
def lowerChar (c : Char) : List Char :=
  if c = 'İ' then ['i', '\u0307'] else [lowerOne c]

/-- Is the first character that is not passed over a cased one? -/
def casedNext (cs : List Char) : Bool :=
  match cs.dropWhile caseIgnorable.hasChar with
  | c :: _ => cased.hasChar c
  | [] => false

/-- The lower-case form of a capital sigma between `before`, nearest character first, and `after`:
final if a word ends there. -/
def lowerSigma (before after : List Char) : Char :=
  if casedNext before && !casedNext after then 'ς' else 'σ'

/-- The lower-case form of a text that follows `before`, nearest character first. -/
def lowerAfter (before : List Char) : List Char → List Char
  | [] => []
  | c :: rest =>
    (if c = 'Σ' then [lowerSigma before rest] else lowerChar c) ++ lowerAfter (c :: before) rest

/-- The lower-case form of a text. -/
def lowerList (cs : List Char) : List Char := lowerAfter [] cs

/-- The lower-case form of a text. -/
def lower (s : String) : String := String.ofList (lowerList s.toList)

/-- The characters other than `c` that are equal to it under simple case folding. -/
def foldPartners (c : Char) : List Char :=
  foldRuns.filterMap fun r => (r.shift? c.toNat).map Char.ofNat

/-- The characters equal to `c` under simple case folding. -/
def foldClass (c : Char) : List Char := c :: foldPartners c

end PostingRules.Text
