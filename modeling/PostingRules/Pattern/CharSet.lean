import PostingRules.Text.Blank
import PostingRules.Text.Lowercase
import PostingRules.Text.Property.Named

/-!
# Sets of characters in patterns

* `CharSet`, `CharSet.has`: sets built from spans by the operations of a character class;
* `CharSet.single`, `CharSet.ofSpans`, `CharSet.neg`;
* `CharSet.bytes`: about how much room a set takes in a compiled pattern;
* `CharSet.word`, `CharSet.digit`, `CharSet.blank`: the sets of `\w`, `\d` and `\s`;
* `asciiClass?`: the sets of names such as `alpha`.
-/

namespace PostingRules

open PostingRules.Text

/-- A set of characters. -/
inductive CharSet
  /-- No character. -/
  | empty
  /-- The characters between two. -/
  | span (first last : Char)
  /-- The characters with a property. -/
  | ranges (r : Ranges)
  | union (a b : CharSet)
  | inter (a b : CharSet)
  | diff (a b : CharSet)
  /-- The characters in exactly one of two sets. -/
  | symmDiff (a b : CharSet)
  | compl (a : CharSet)
  /-- The characters equal to one of the set under simple case folding. -/
  | folded (a : CharSet)
  /-- The set with the other case of its ASCII letters. -/
  | asciiFolded (a : CharSet)
  deriving DecidableEq, Repr

/-- The other case of an ASCII letter. -/
def swapCase (c : Char) : Char :=
  if 'a' ≤ c ∧ c ≤ 'z' then Char.ofNat (c.toNat - 32)
  else if 'A' ≤ c ∧ c ≤ 'Z' then Char.ofNat (c.toNat + 32)
  else c

namespace CharSet

/-- Is the character in the set? -/
def has : CharSet → Char → Bool
  | empty, _ => false
  | span first last, c => first ≤ c && c ≤ last
  | ranges r, c => r.hasChar c
  | union a b, c => a.has c || b.has c
  | inter a b, c => a.has c && b.has c
  | diff a b, c => a.has c && !b.has c
  | symmDiff a b, c => a.has c != b.has c
  | compl a, c => !a.has c
  | folded a, c => (foldClass c).any a.has
  | asciiFolded a, c => a.has c || a.has (swapCase c)

/-- The set of one character. -/
def single (c : Char) : CharSet := span c c

/-- The set itself, or its complement if `negated`. -/
def neg (negated : Bool) (a : CharSet) : CharSet := if negated then compl a else a

/-- The union of some spans. -/
def ofSpans (l : List (Char × Char)) : CharSet :=
  l.foldl (fun s p => union s (span p.1 p.2)) empty

/-- The characters of words, of every script or of ASCII. -/
def word (unicode : Bool) : CharSet :=
  if unicode then ranges Property.word
  else ofSpans [('0', '9'), ('A', 'Z'), ('_', '_'), ('a', 'z')]

/-- Decimal digits, of every script or of ASCII. -/
def digit (unicode : Bool) : CharSet := if unicode then ranges Property.digit else span '0' '9'

/-- Blanks, all or those of ASCII. -/
def blank (unicode : Bool) : CharSet :=
  if unicode then ranges ((Property.binaryRanges? "whitespace").getD [])
  else ofSpans [('\t', '\r'), (' ', ' ')]

/-- Has the set only characters of ASCII, as far as its parts tell? -/
def isAscii : CharSet → Bool
  | empty => true
  | span _ last => last.toNat < 128
  | ranges r => r.all (·.2 < 128)
  | union a b | symmDiff a b => a.isAscii && b.isAscii
  | inter a b => a.isAscii || b.isAscii
  | diff a _ | folded a | asciiFolded a => a.isAscii
  | compl _ => false

/-- About how many sequences of ranges of bytes the characters of the set are. Other cases of a letter
are three at most, and the rest of Unicode takes a dozen. -/
def sequences : CharSet → Nat
  | empty => 0
  | span _ _ => 1
  | ranges r => r.joined.length
  | union a b | inter a b | diff a b | symmDiff a b => a.sequences + b.sequences
  | compl a => a.sequences + 12
  | folded a | asciiFolded a => a.sequences + 3

/-- About how many bytes the set takes in a compiled pattern: a state with a transition for each
sequence of one byte, or two states for each sequence. -/
def bytes (s : CharSet) : Nat :=
  if s.isAscii then 64 + 8 * s.sequences else 64 * (s.sequences + 1)

end CharSet

/-- The characters of a class named inside a bracket, `[:alpha:]`. -/
def asciiClass? (name : String) : Option CharSet :=
  match name with
  | "alnum" => some (.ofSpans [('0', '9'), ('A', 'Z'), ('a', 'z')])
  | "alpha" => some (.ofSpans [('A', 'Z'), ('a', 'z')])
  | "ascii" => some (.ofSpans [('\x00', '\x7f')])
  | "blank" => some (.ofSpans [('\t', '\t'), (' ', ' ')])
  | "cntrl" => some (.ofSpans [('\x00', '\x1f'), ('\x7f', '\x7f')])
  | "digit" => some (.ofSpans [('0', '9')])
  | "graph" => some (.ofSpans [('!', '~')])
  | "lower" => some (.ofSpans [('a', 'z')])
  | "print" => some (.ofSpans [(' ', '~')])
  | "punct" => some (.ofSpans [('!', '/'), (':', '@'), ('[', '\x60'), ('\x7b', '~')])
  | "space" => some (.ofSpans [('\t', '\r'), (' ', ' ')])
  | "upper" => some (.ofSpans [('A', 'Z')])
  | "word" => some (.ofSpans [('0', '9'), ('A', 'Z'), ('_', '_'), ('a', 'z')])
  | "xdigit" => some (.ofSpans [('0', '9'), ('A', 'F'), ('a', 'f')])
  | _ => none

end PostingRules
