import PostingRules.Pattern.Cursor

/-!
# Escaped characters of a pattern

* `Escaped`: what a backslash and the characters behind it stand for;
* `isEscapable`: the characters that a backslash makes literal;
* `readBoundary`: the braces that may follow `\b`;
* **`readEscape`**: what stands behind a backslash.
-/

namespace PostingRules.PatternReader

open PostingRules.Text

/-- What a backslash and the characters behind it stand for. -/
inductive Escaped
  | char (c : Char)
  | set (s : CharSet)
  | look (l : Look)
  deriving DecidableEq, Repr

/-- The characters that a backslash makes literal: those of ASCII that are neither letters, digits
nor angle brackets. -/
def isEscapable (c : Char) : Bool :=
  c.toNat < 128 && !c.isAlphanum && c != '<' && c != '>'

/-- May the character stand in the name of a kind of word boundary? -/
def isBoundaryChar (c : Char) : Bool :=
  ('a' ≤ c && c ≤ 'z') || ('A' ≤ c && c ≤ 'Z') || c = '-'

/-- The letters of the name of a word boundary, with what verbose mode passes over behind each. -/
def readBoundaryName (f : Flags) (cs : List Char) : List Char × List Char :=
  match cs with
  | [] => ([], [])
  | c :: rest =>
    if isBoundaryChar c then
      let (name, rest) := readBoundaryName f (skip f rest)
      (c :: name, rest)
    else ([], c :: rest)
  termination_by cs.length
  decreasing_by
    have := length_skip f rest
    simp only [List.length_cons]
    omega

/-- The assertion of `\b`: a word boundary, or the kind named in the braces behind it. Braces that
do not begin with a letter are left as a repetition count. -/
def readBoundary (f : Flags) (cs : List Char) : Option (Look × List Char) :=
  match cs with
  | '{' :: rest =>
    match skip f rest with
    | [] => none
    | c :: more =>
      if isBoundaryChar c then
        match readBoundaryName f (c :: more) with
        | (name, '}' :: rest) =>
          match String.ofList name with
          | "start" => some (.wordStart f.unicode, rest)
          | "end" => some (.wordEnd f.unicode, rest)
          | "start-half" => some (.wordStartHalf f.unicode, rest)
          | "end-half" => some (.wordEndHalf f.unicode, rest)
          | _ => none
        | _ => none
      else some (.wordBoundary f.unicode, cs)
  | _ => some (.wordBoundary f.unicode, cs)

/-- A class such as `\d`, or its complement, which without the flag `u` has no meaning in a text. -/
def perlClass (f : Flags) (negated : Bool) (s : CharSet) (cs : List Char) :
    Option (Escaped × List Char) :=
  if negated && !f.unicode then none else some (.set (.neg negated s), cs)

/-- A character written by its number; two digits beyond ASCII are a byte without the flag `u`. -/
def byNumber (f : Flags) (width : Nat) (cs : List Char) : Option (Escaped × List Char) := do
  let (c, rest) ← readHex f width cs
  let braced := (skip f cs).head? = some '{'
  if !f.unicode && width = 2 && !braced && 128 ≤ c.toNat then none
  else some (.char c, rest)

/-- **What stands behind a backslash.** -/
def readEscape (f : Flags) : List Char → Option (Escaped × List Char)
  | [] => none
  | c :: cs =>
    match c with
    | 'x' => byNumber f 2 cs
    | 'u' => byNumber f 4 cs
    | 'U' => byNumber f 8 cs
    | 'p' | 'P' =>
      if f.unicode then (readProperty f (c = 'P') cs).map fun p => (.set p.1, p.2) else none
    | 'd' | 'D' => perlClass f (c = 'D') (.digit f.unicode) cs
    | 's' | 'S' => perlClass f (c = 'S') (.blank f.unicode) cs
    | 'w' | 'W' => perlClass f (c = 'W') (.word f.unicode) cs
    | 'a' => some (.char '\x07', cs)
    | 'f' => some (.char '\x0c', cs)
    | 't' => some (.char '\t', cs)
    | 'n' => some (.char '\n', cs)
    | 'r' => some (.char '\r', cs)
    | 'v' => some (.char '\x0b', cs)
    | 'A' => some (.look .textStart, cs)
    | 'z' => some (.look .textEnd, cs)
    | 'b' => (readBoundary f cs).map fun p => (.look p.1, p.2)
    | 'B' => some (.look (.notWordBoundary f.unicode), cs)
    | '<' => some (.look (.wordStart f.unicode), cs)
    | '>' => some (.look (.wordEnd f.unicode), cs)
    | _ => if isEscapable c then some (.char c, cs) else none

end PostingRules.PatternReader
