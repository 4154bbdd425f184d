import PostingRules.Json.Text
import PostingRules.Text.Digits

/-!
# Reading JSON

* `Value`: a JSON value;
* `skipBlank`, `readNumber`, `readString`: the leaves of the grammar;
* `readValue`, `readItems`, `readMembers`: values;
* **`read?`**: the value of a text.
-/

namespace PostingRules.Json

open PostingRules.Text

/-- A JSON value. A string is `none` where a surrogate lacks its pair, and a number is its text. -/
inductive Value
  | null
  | bool (b : Bool)
  | number (text : List Char)
  | string (s : Option String)
  | array (items : List Value)
  | object (members : List (Option String × Value))
  deriving Repr

/-- Is the character one of the four blanks of JSON? -/
def isBlankChar (c : Char) : Bool := c = ' ' || c = '\n' || c = '\t' || c = '\r'

/-- The text behind blanks. -/
def skipBlank (cs : List Char) : List Char := cs.dropWhile isBlankChar

/-- Digits, one at least. -/
def readDigits1 (cs : List Char) : Option (List Char × List Char) :=
  match cs.takeWhile isDigit with
  | [] => none
  | ds => some (ds, cs.dropWhile isDigit)

/-- The integer part of a number: a zero, or digits that begin with another. -/
def readWhole : List Char → Option (List Char × List Char)
  | '0' :: cs => some (['0'], cs)
  | cs => readDigits1 cs

/-- The fraction of a number, if there is one. -/
def readFraction : List Char → Option (List Char × List Char)
  | '.' :: cs => (readDigits1 cs).map fun p => ('.' :: p.1, p.2)
  | cs => some ([], cs)

/-- The exponent of a number, if there is one. -/
def readExponent : List Char → Option (List Char × List Char)
  | c :: cs =>
    if c = 'e' ∨ c = 'E' then
      match cs with
      | '+' :: ds => (readDigits1 ds).map fun p => (c :: '+' :: p.1, p.2)
      | '-' :: ds => (readDigits1 ds).map fun p => (c :: '-' :: p.1, p.2)
      | ds => (readDigits1 ds).map fun p => (c :: p.1, p.2)
    else some ([], c :: cs)
  | [] => some ([], [])

/-- A number. -/
def readNumber (cs : List Char) : Option (Value × List Char) := do
  let (sign, cs) :=
    match cs with
    | '-' :: rest => (['-'], rest)
    | rest => ([], rest)
  let (whole, cs) ← readWhole cs
  let (fraction, cs) ← readFraction cs
  let (exponent, cs) ← readExponent cs
  some (.number (sign ++ whole ++ fraction ++ exponent), cs)

/-- A string behind its opening quote. -/
def readString (cs : List Char) : Option (Option String × List Char) :=
  (readPieces cs).map fun p => ((joinPieces p.1).map String.ofList, p.2)

/-- A word such as `true`. -/
def readWord (word : List Char) (v : Value) (cs : List Char) : Option (Value × List Char) :=
  if word.isPrefixOf cs then some (v, cs.drop word.length) else none

mutual

/-- A value. -/
def readValue : Nat → List Char → Option (Value × List Char)
  | 0, _ => none
  | fuel + 1, cs =>
    match skipBlank cs with
    | '"' :: rest => (readString rest).map fun p => (.string p.1, p.2)
    | '[' :: rest =>
      match skipBlank rest with
      | ']' :: rest => some (.array [], rest)
      | rest => (readItems fuel rest).map fun p => (.array p.1, p.2)
    | '\x7b' :: rest =>
      match skipBlank rest with
      | '\x7d' :: rest => some (.object [], rest)
      | rest => (readMembers fuel rest).map fun p => (.object p.1, p.2)
    | 'n' :: rest => readWord ['u', 'l', 'l'] .null rest
    | 't' :: rest => readWord ['r', 'u', 'e'] (.bool true) rest
    | 'f' :: rest => readWord ['a', 'l', 's', 'e'] (.bool false) rest
    | rest => readNumber rest

/-- The items of an array and its closing bracket. -/
def readItems : Nat → List Char → Option (List Value × List Char)
  | 0, _ => none
  | fuel + 1, cs => do
    let (v, rest) ← readValue fuel cs
    match skipBlank rest with
    | ',' :: rest => (readItems fuel rest).map fun p => (v :: p.1, p.2)
    | ']' :: rest => some ([v], rest)
    | _ => none

/-- The members of an object and its closing brace. -/
def readMembers : Nat → List Char → Option (List (Option String × Value) × List Char)
  | 0, _ => none
  | fuel + 1, cs =>
    match skipBlank cs with
    | '"' :: rest => do
      let (key, rest) ← readString rest
      match skipBlank rest with
      | ':' :: rest =>
        let (v, rest) ← readValue fuel rest
        match skipBlank rest with
        | ',' :: rest => (readMembers fuel rest).map fun p => ((key, v) :: p.1, p.2)
        | '\x7d' :: rest => some ([(key, v)], rest)
        | _ => none
      | _ => none
    | _ => none

end

/-- **The value of a text** that holds one value and blanks around it. Every value takes a character
at least, so as much fuel as there are characters suffices. -/
def read? (cs : List Char) : Option Value :=
  (readValue (2 * cs.length + 1) cs).bind fun p => if skipBlank p.2 = [] then some p.1 else none

end PostingRules.Json
