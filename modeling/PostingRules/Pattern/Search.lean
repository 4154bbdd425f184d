import PostingRules.Pattern.Tree

/-!
# Searching with patterns

Places of a text are numbered from 0 before its first character. A pattern takes a set of places to
the set of places where a match that begins at one of them ends.

* `Look.holds`: does an assertion hold at a place?
* `union`, `times`, `spread`: sets of places, a step repeated, and a step repeated as long as it
  reaches new places;
* **`Pattern.ends`**: the places where matches end;
* **`Pattern.found`**: does a pattern match anywhere in a text?
-/

namespace PostingRules

open PostingRules.Text

/-! ## Assertions -/

/-- The character before a place. -/
def charBefore (t : Array Char) (i : Nat) : Option Char := if i = 0 then none else t[i - 1]?

/-- Is there a word character? -/
def isWord (unicode : Bool) (c : Option Char) : Bool :=
  match c with
  | some c => (CharSet.word unicode).has c
  | none => false

/-- Does the assertion hold at a place of the text? -/
def Look.holds (t : Array Char) (i : Nat) : Look → Bool
  | .textStart => i = 0
  | .textEnd => i = t.size
  | .lineStart => i = 0 || charBefore t i = some '\n'
  | .lineEnd => i = t.size || t[i]? = some '\n'
  | .lineStartReturn =>
    i = 0 || charBefore t i = some '\n' || (charBefore t i = some '\r' && t[i]? != some '\n')
  | .lineEndReturn =>
    i = t.size || t[i]? = some '\r' || (t[i]? = some '\n' && charBefore t i != some '\r')
  | .wordBoundary u => isWord u (charBefore t i) != isWord u t[i]?
  | .notWordBoundary u => isWord u (charBefore t i) == isWord u t[i]?
  | .wordStart u => !isWord u (charBefore t i) && isWord u t[i]?
  | .wordEnd u => isWord u (charBefore t i) && !isWord u t[i]?
  | .wordStartHalf u => !isWord u (charBefore t i)
  | .wordEndHalf u => !isWord u t[i]?

/-! ## Sets of places -/

/-- The places of two sets. -/
def union (a b : List Nat) : List Nat := a ++ b.filter (!a.contains ·)

/-- A step taken `n` times, as long as it leads anywhere. -/
def times (step : List Nat → List Nat) : Nat → List Nat → List Nat
  | 0, s => s
  | n + 1, s => if s.isEmpty then [] else times step n (step s)

/-- The places reached in at most `n` steps: `seen` so far, of them `last` by the last step. -/
def spread (step : List Nat → List Nat) : Nat → List Nat → List Nat → List Nat
  | 0, seen, _ => seen
  | n + 1, seen, last =>
    let new := (step last).filter (!seen.contains ·)
    if new.isEmpty then seen else spread step n (seen ++ new) new

/-! ## Matching -/

namespace Pattern

/-- **The places where matches end** that begin at one of the places `s`. -/
def ends (t : Array Char) : Pattern → List Nat → List Nat
  | empty, s => s
  | set a, s => s.filterMap fun i => t[i]?.bind fun c => if a.has c then some (i + 1) else none
  | look l, s => s.filter fun i => l.holds t i
  | seq a b, s => b.ends t (a.ends t s)
  | alt a b, s => union (a.ends t s) (b.ends t s)
  | group _ p, s => p.ends t s
  | repeats q p, s =>
    match q with
    | .optional => union s (p.ends t s)
    | .star => spread (p.ends t) (t.size + 1) s s
    | .plus => let s' := p.ends t s; spread (p.ends t) (t.size + 1) s' s'
    | .counted least none =>
      let s' := times (p.ends t) least s
      spread (p.ends t) (t.size + 1) s' s'
    | .counted least (some most) =>
      let s' := times (p.ends t) least s
      spread (p.ends t) (most - least) s' s'

/-- **Does the pattern match anywhere in the text?** -/
def found (p : Pattern) (cs : List Char) : Bool :=
  !(p.ends cs.toArray (List.range (cs.length + 1))).isEmpty

end Pattern

end PostingRules
