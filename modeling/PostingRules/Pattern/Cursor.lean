import PostingRules.Pattern.Tree
import PostingRules.Text.Digits

/-!
# Reading pieces of a pattern

Every reader takes the rest of the pattern and answers what it read and what is left, or nothing if
the pattern is invalid there.

* `Flags`, `readFlags`: the flags in force, and a change of flags;
* `skip`: blanks and comments, passed over in verbose mode;
* `readCount`: a repetition count in braces;
* `readHex`: a character by its code point;
* `readProperty`: a named property;
* `readGroupName`.
-/

namespace PostingRules.PatternReader

open PostingRules.Text

/-! ## Flags -/

/-- The flags in force at a place of a pattern. Patterns begin without regard to case and with
every script. -/
structure Flags where
  fold : Bool := true
  multiLine : Bool := false
  dotAll : Bool := false
  unicode : Bool := true
  verbose : Bool := false
  returns : Bool := false
  deriving DecidableEq, Repr

/-- The set closed under case folding, if case does not count. -/
def Flags.close (f : Flags) (a : CharSet) : CharSet :=
  if f.fold then (if f.unicode then .folded a else .asciiFolded a) else a

/-- The flags with the flag of a letter set to `on`, if the letter names one. The flag `U` only
exchanges greedy and lazy repetitions. -/
def Flags.set? (f : Flags) (c : Char) (on : Bool) : Option Flags :=
  match c with
  | 'i' => some { f with fold := on }
  | 'm' => some { f with multiLine := on }
  | 's' => some { f with dotAll := on }
  | 'U' => some f
  | 'u' => some { f with unicode := on }
  | 'R' => some { f with returns := on }
  | 'x' => some { f with verbose := on }
  | _ => none

/-- How flags end: with a colon before the inside of a group, or with the parenthesis that makes
them hold for the rest of the group around them. -/
inductive FlagsEnd
  | colon
  | paren
  deriving DecidableEq, Repr

/-- Flags up to a colon or a parenthesis. `seen` holds the letters before, a minus sign among them
once it has been met. A letter may stand once, and a minus sign not last. -/
def readFlags (seen : List Char) (f : Flags) : List Char → Option (Flags × FlagsEnd × List Char)
  | [] => none
  | ':' :: cs => if seen.head? = some '-' then none else some (f, .colon, cs)
  | ')' :: cs => if seen.head? = some '-' ∨ seen = [] then none else some (f, .paren, cs)
  | c :: cs =>
    if seen.contains c then none
    else if c = '-' then readFlags (c :: seen) f cs
    else (f.set? c (!seen.contains '-')).bind fun f' => readFlags (c :: seen) f' cs

/-! ## Verbose mode -/

/-- The text behind blanks and comments, starting inside a comment or not. A comment runs from a
number sign to the end of the line. -/
def skipFrom (comment : Bool) : List Char → List Char
  | [] => []
  | c :: cs =>
    if comment then skipFrom (c != '\n') cs
    else if isBlank c then skipFrom false cs
    else if c = '#' then skipFrom true cs
    else c :: cs

/-- The text behind blanks and comments in verbose mode, and the text itself otherwise. -/
def skip (f : Flags) (cs : List Char) : List Char := if f.verbose then skipFrom false cs else cs

theorem length_skipFrom (b : Bool) (cs : List Char) : (skipFrom b cs).length ≤ cs.length := by
  induction cs generalizing b with
  | nil => simp [skipFrom]
  | cons c cs ih =>
    unfold skipFrom
    have := ih (c != '\n')
    have := ih false
    have := ih true
    split
    · simp only [List.length_cons]; omega
    · split
      · simp only [List.length_cons]; omega
      · split
        · simp only [List.length_cons]; omega
        · exact Nat.le_refl _

theorem length_skip (f : Flags) (cs : List Char) : (skip f cs).length ≤ cs.length := by
  unfold skip
  split
  · exact length_skipFrom false cs
  · exact Nat.le_refl _

/-- The next character that counts behind one character of a class: in verbose mode blanks are
passed over, and one number sign with the blanks behind it. -/
def peek (f : Flags) (cs : List Char) : Option Char :=
  if f.verbose then
    match cs.dropWhile isBlank with
    | '#' :: rest => (rest.dropWhile isBlank).head?
    | rest => rest.head?
  else cs.head?

/-! ## Numbers -/

/-- Digits, with what verbose mode passes over behind each. -/
def readNumeral (f : Flags) (n : Option Nat) (cs : List Char) : Option Nat × List Char :=
  match cs with
  | [] => (n, [])
  | c :: rest =>
    match digit? c with
    | some d => readNumeral f (some (10 * n.getD 0 + d)) (skip f rest)
    | none => (n, c :: rest)
  termination_by cs.length
  decreasing_by
    have := length_skip f rest
    simp only [List.length_cons]
    omega

/-- A number of 32 bits, with blanks on both sides, or `none` where no digit stands. -/
def readBound (f : Flags) (cs : List Char) : Option (Option Nat × List Char) :=
  let (n, rest) := readNumeral f none (cs.dropWhile isBlank)
  match n with
  | none => some (none, rest.dropWhile isBlank)
  | some m => if m ≤ maxNat32 then some (some m, rest.dropWhile isBlank) else none

/-- Drop the question mark that makes a repetition lazy. -/
def dropLazy : List Char → List Char
  | '?' :: cs => cs
  | cs => cs

/-- A repetition count behind its opening brace: `n}`, `n,}` or `n,m}` with `n` at most `m`. -/
def readCount (f : Flags) (cs : List Char) : Option (Quantifier × List Char) := do
  let (least, cs) ← readBound f (skip f cs)
  let n ← least
  match cs with
  | '}' :: rest => some (.counted n (some n), dropLazy (skip f rest))
  | ',' :: rest =>
    match skip f rest with
    | '}' :: rest => some (.counted n none, dropLazy (skip f rest))
    | rest =>
      let (most, rest) ← readBound f rest
      let m ← most
      match rest with
      | '}' :: rest =>
        if n ≤ m then some (.counted n (some m), dropLazy (skip f rest)) else none
      | _ => none
  | _ => none

/-! ## Characters by number -/

/-- The character of a code point, if there is one. -/
def charOf? (n : Nat) : Option Char := if h : n.isValidChar then some (Char.ofNatAux n h) else none

/-- So many hexadecimal digits, with what verbose mode passes over between them. -/
def readHexDigits (f : Flags) : Nat → Nat → List Char → Option (Nat × List Char)
  | 0, n, cs => some (n, cs)
  | k + 1, n, cs =>
    match skip f cs with
    | [] => none
    | c :: rest => (hexDigit? c).bind fun d => readHexDigits f k (16 * n + d) rest

/-- Hexadecimal digits up to a closing brace, one at least. -/
def readHexBraced (f : Flags) (n : Option Nat) (cs : List Char) : Option (Nat × List Char) :=
  match _h : skip f cs with
  | [] => none
  | c :: rest =>
    if c = '}' then n.map (·, rest)
    else
      match hexDigit? c with
      | some d => readHexBraced f (some (16 * n.getD 0 + d)) rest
      | none => none
  termination_by cs.length
  decreasing_by
    have := length_skip f cs
    rw [_h] at this
    exact this

/-- A character written as `width` hexadecimal digits or in braces. -/
def readHex (f : Flags) (width : Nat) (cs : List Char) : Option (Char × List Char) := do
  let (n, rest) ←
    match skip f cs with
    | '{' :: rest => readHexBraced f none rest
    | rest => readHexDigits f width 0 rest
  let c ← charOf? n
  some (c, rest)

/-! ## Names -/

/-- Characters up to a closing brace, without what verbose mode passes over. -/
def readBraced (f : Flags) (cs : List Char) : Option (List Char × List Char) :=
  match _h : skip f cs with
  | [] => none
  | c :: rest =>
    if c = '}' then some ([], rest)
    else (readBraced f rest).map fun p => (c :: p.1, p.2)
  termination_by cs.length
  decreasing_by
    have := length_skip f cs
    rw [_h] at this
    exact this

/-- The parts of a text before and behind the first place where `sep` stands. -/
def splitAt? (sep : List Char) : List Char → Option (List Char × List Char)
  | [] => none
  | c :: cs =>
    if sep.isPrefixOf (c :: cs) then some ([], (c :: cs).drop sep.length)
    else (splitAt? sep cs).map fun p => (c :: p.1, p.2)

/-- The set of a property in braces: a name, or a property and a value with `=`, `:` or `!=`
between them. -/
def propertySet? (name : List Char) : Option (Bool × Ranges) :=
  match splitAt? ['!', '='] name with
  | some (p, v) => (Property.ofNameValue? p v).map (true, ·)
  | none =>
    match (splitAt? [':'] name).or (splitAt? ['='] name) with
    | some (p, v) => (Property.ofNameValue? p v).map (false, ·)
    | none => (Property.ofName? name).map (false, ·)

/-- A property behind its `p` or `P`: one letter, or a name in braces. -/
def readProperty (f : Flags) (negated : Bool) (cs : List Char) : Option (CharSet × List Char) := do
  let ((flip, r), rest) ←
    match skip f cs with
    | [] => none
    | '\\' :: _ => none
    | '{' :: rest => (readBraced f rest).bind fun p => (propertySet? p.1).map (·, p.2)
    | c :: rest => (Property.ofName? [c]).map fun r => ((false, r), rest)
  some (.neg (negated != flip) (f.close (.ranges r)), rest)

/-- May the character stand in the name of a group? -/
def isNameChar (first : Bool) (c : Char) : Bool :=
  if first then c = '_' || Property.alphabetic.hasChar c
  else c = '_' || c = '.' || c = '[' || c = ']' || Property.alphanumeric.hasChar c

/-- The name of a group up to its `>`. -/
def readGroupName (cs : List Char) : Option (List Char × List Char) :=
  let name := cs.takeWhile (· != '>')
  match name, cs.dropWhile (· != '>') with
  | c :: more, _ :: rest =>
    if isNameChar true c && more.all (isNameChar false) then some (name, rest) else none
  | _, _ => none

end PostingRules.PatternReader
