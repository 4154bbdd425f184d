/-!
# Blank characters

* `isBlank`: the property White_Space;
* `trimList`, `trim`: a text without blanks at its ends;
* `allBlank`: a text of blanks only.
-/

namespace PostingRules.Text

/-- The characters of the property White_Space. -/
def isBlank (c : Char) : Bool :=
  let n := c.toNat
  (0x09 ≤ n && n ≤ 0x0D) || n == 0x20 || n == 0x85 || n == 0xA0 || n == 0x1680 ||
    (0x2000 ≤ n && n ≤ 0x200A) || n == 0x2028 || n == 0x2029 || n == 0x202F || n == 0x205F ||
    n == 0x3000

/-- A text without the blanks at its end. -/
def trimEndList (cs : List Char) : List Char := (cs.reverse.dropWhile isBlank).reverse

/-- A text without the blanks at its two ends. -/
def trimList (cs : List Char) : List Char := trimEndList (cs.dropWhile isBlank)

/-- A text without the blanks at its two ends. -/
def trim (s : String) : String := String.ofList (trimList s.toList)

/-- Does the text hold nothing but blanks? -/
def allBlank (s : String) : Bool := s.toList.all isBlank

end PostingRules.Text
