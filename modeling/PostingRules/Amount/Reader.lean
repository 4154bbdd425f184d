import PostingRules.Decimal.Reader
import PostingRules.Text.Blank

/-!
# Reading amounts of a bank statement

Statements write `-1 234,50`, `1234.50`, `1,234.50 kr` or `1.234,50 SEK`. Blanks, double quotes and
a unit at the end are dropped; of two kinds of separators the one that stands last is the decimal
mark.

* `amountText`: the text without blanks, quotes and unit;
* `pointed`: the text with a point as its only separator;
* **`readAmount`**: the amount.
-/

namespace PostingRules

open PostingRules.Text

/-- Drop every `kr` at the front of a text read backwards. -/
def dropKr : List Char → List Char
  | 'r' :: 'k' :: cs => dropKr cs
  | cs => cs

/-- Drop every `SEK` at the front of a text read backwards. -/
def dropSek : List Char → List Char
  | 'K' :: 'E' :: 'S' :: cs => dropSek cs
  | cs => cs

/-- The text without blanks and double quotes, without every `kr` and then every `SEK` at its end. -/
def amountText (cs : List Char) : List Char :=
  (dropSek (dropKr (cs.filter fun c => !isBlank c && c != '"').reverse)).reverse

/-- Is the character a separator? -/
def isSeparator (c : Char) : Bool := c = ',' || c = '.'

/-- A comma becomes a point. -/
def commaToPoint (c : Char) : Char := if c = ',' then '.' else c

/-- The text with its decimal mark as a point and without the other kind of separator. -/
def pointed (cs : List Char) : List Char :=
  if cs.contains ',' && cs.contains '.' then
    if cs.reverse.find? isSeparator = some ',' then (cs.filter (· != '.')).map commaToPoint
    else cs.filter (· != ',')
  else cs.map commaToPoint

/-- **The amount** in a cell of a statement. -/
def readAmount (cs : List Char) : Option Decimal := Decimal.read (pointed (amountText cs))

/-- The amount that a text holds. -/
def amountOf? (s : String) : Option Decimal := readAmount s.toList

end PostingRules
