import PostingRules.Pattern.CharSet

/-!
# Patterns

The syntax tree of a pattern, with the flags that were in force at each place worked into its sets
and assertions. Which of two matches is longer does not matter here, so greedy and lazy repetitions
are one.

* `Look`: what is asserted about a place in the text;
* `Quantifier`: how often a part is repeated;
* `Pattern`;
* `Pattern.bytes`: about how large it is when it is compiled, with each repetition written out.
-/

namespace PostingRules

/-- An assertion about a place in the text. -/
inductive Look
  | textStart
  | textEnd
  | lineStart
  | lineEnd
  /-- The start of a line where a carriage return also ends lines. -/
  | lineStartReturn
  | lineEndReturn
  | wordBoundary (unicode : Bool)
  | notWordBoundary (unicode : Bool)
  | wordStart (unicode : Bool)
  | wordEnd (unicode : Bool)
  /-- No word character before. -/
  | wordStartHalf (unicode : Bool)
  /-- No word character behind. -/
  | wordEndHalf (unicode : Bool)
  deriving DecidableEq, Repr

/-- How often a part is repeated. -/
inductive Quantifier
  | optional
  | star
  | plus
  /-- At least and at most so often; without a limit if there is no second number. -/
  | counted (least : Nat) (most : Option Nat)
  deriving DecidableEq, Repr

/-- How many copies of a part a repetition writes out, at least one. -/
def Quantifier.copies : Quantifier → Nat
  | .optional | .star | .plus => 1
  | .counted least none => max 1 least
  | .counted _ (some most) => max 1 most

/-- How many of these copies may be left out or gone through again. -/
def Quantifier.choices : Quantifier → Nat
  | .optional | .star | .plus | .counted _ none => 1
  | .counted least (some most) => most - least

/-- A pattern. -/
inductive Pattern
  | empty
  | set (s : CharSet)
  | look (l : Look)
  | seq (a b : Pattern)
  | alt (a b : Pattern)
  | group (capturing : Bool) (p : Pattern)
  | repeats (q : Quantifier) (p : Pattern)
  deriving DecidableEq, Repr

namespace Pattern

/-- One part after another. -/
def seqs : List Pattern → Pattern
  | [] => empty
  | [p] => p
  | p :: ps => seq p (seqs ps)

/-- One of some parts. -/
def alts : List Pattern → Pattern
  | [] => empty
  | [p] => p
  | p :: ps => alt p (alts ps)

/-- About how many bytes the compiled pattern takes: 32 for a state, two states for a group that
captures, and one with its ends for every choice. -/
def bytes : Pattern → Nat
  | empty | look _ => 32
  | set s => s.bytes
  | seq a b => a.bytes + b.bytes
  | alt a b => a.bytes + b.bytes + 40
  | group capturing p => p.bytes + if capturing then 64 else 0
  | repeats q p => q.copies * p.bytes + 40 * q.choices

end Pattern

end PostingRules
