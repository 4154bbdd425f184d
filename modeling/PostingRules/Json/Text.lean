import PostingRules.Text.Ranges

/-!
# Strings in JSON

* `escapeChar`, **`quote`**: a text as a JSON string;
* `Piece`, `readPieces`: the pieces of a JSON string, where a code unit written by its number stands
  alone;
* `joinPieces`: the text of the pieces, if every surrogate has its pair.
-/

namespace PostingRules.Json

open PostingRules.Text

/-! ## Writing -/

/-- A digit of a number below 16. -/
def hexChar (n : Nat) : Char := if n < 10 then Char.ofNat (48 + n) else Char.ofNat (87 + n)

/-- A character inside a JSON string. Quotes, backslashes and the controls of ASCII are escaped. -/
def escapeChar (c : Char) : List Char :=
  match c with
  | '"' => ['\\', '"']
  | '\\' => ['\\', '\\']
  | '\x08' => ['\\', 'b']
  | '\t' => ['\\', 't']
  | '\n' => ['\\', 'n']
  | '\x0c' => ['\\', 'f']
  | '\r' => ['\\', 'r']
  | c =>
    if c.toNat < 32 then ['\\', 'u', '0', '0', hexChar (c.toNat / 16), hexChar (c.toNat % 16)]
    else [c]

/-- **A text as a JSON string.** -/
def quote (cs : List Char) : List Char := '"' :: cs.flatMap escapeChar ++ ['"']

/-! ## Reading -/

/-- A piece of a JSON string: a character, or a code unit of 16 bits written by its number. -/
inductive Piece
  | char (c : Char)
  | unit (n : Nat)
  deriving DecidableEq, Repr

/-- The character that a backslash and a letter stand for. -/
def unescape? (c : Char) : Option Char :=
  match c with
  | '"' => some '"'
  | '\\' => some '\\'
  | '/' => some '/'
  | 'b' => some '\x08'
  | 'f' => some '\x0c'
  | 'n' => some '\n'
  | 'r' => some '\r'
  | 't' => some '\t'
  | _ => none

/-- The number of four hexadecimal digits. -/
def hex4? (a b c d : Char) : Option Nat := do
  let a ← hexDigit? a
  let b ← hexDigit? b
  let c ← hexDigit? c
  let d ← hexDigit? d
  some (((a * 16 + b) * 16 + c) * 16 + d)

/-- The pieces of a JSON string behind its opening quote, and what stands behind the closing one. -/
def readPieces : List Char → Option (List Piece × List Char)
  | [] => none
  | '"' :: cs => some ([], cs)
  | '\\' :: 'u' :: a :: b :: c :: d :: cs =>
    (hex4? a b c d).bind fun n => (readPieces cs).map fun p => (.unit n :: p.1, p.2)
  | '\\' :: e :: cs =>
    (unescape? e).bind fun x => (readPieces cs).map fun p => (.char x :: p.1, p.2)
  | c :: cs =>
    if c = '\\' ∨ c.toNat < 32 then none
    else (readPieces cs).map fun p => (.char c :: p.1, p.2)

/-- Is the code unit the first of a surrogate pair? -/
def isHigh (n : Nat) : Bool := 0xD800 ≤ n && n ≤ 0xDBFF

/-- Is the code unit the second of a surrogate pair? -/
def isLow (n : Nat) : Bool := 0xDC00 ≤ n && n ≤ 0xDFFF

/-- The character of a surrogate pair. -/
def pairChar (high low : Nat) : Char := Char.ofNat (0x10000 + (high - 0xD800) * 0x400 + (low - 0xDC00))

/-- The text of some pieces, if every surrogate has its pair. -/
def joinPieces : List Piece → Option (List Char)
  | [] => some []
  | .char c :: ps => (joinPieces ps).map (c :: ·)
  | .unit h :: .unit l :: ps =>
    if isHigh h then
      if isLow l then (joinPieces ps).map (pairChar h l :: ·) else none
    else if isLow h then none
    else (joinPieces (.unit l :: ps)).map (Char.ofNat h :: ·)
  | .unit h :: ps =>
    if isHigh h || isLow h then none else (joinPieces ps).map (Char.ofNat h :: ·)

end PostingRules.Json
