import PostingRules.Pattern.Guard
import PostingRules.Proofs.Pattern.Tokens
import PostingRules.Text.Blank

/-!
# Plain patterns

The screening and the reader cut a pattern up separately, and there are four places where a valid
pattern may mislead the screening. A pattern without them is plain.

* `plainClass`: inside a class no bracket opens behind a dash, or in front of a closing bracket that
  the reader takes for a member;
* `plainCount`: no repetition count has blanks around its numbers;
* `plainGroup`: no flags switch verbose mode on, and no name of a group holds a character that means
  something to the screening;
* **`IsPlain`**: all of that at every token of a pattern.
-/

namespace PostingRules.Guard

open PostingRules.Text

/-- Inside a class with `depth` brackets open in it, up to its closing bracket: no bracket behind a
dash, two dashes counting for nothing, and none before `]` or `^]`. -/
def plainTail (depth : Nat) : List Char → Bool
  | [] => true
  | ['\\'] => true
  | '\\' :: _ :: cs => plainTail depth cs
  | '-' :: '-' :: cs => plainTail depth cs
  | '-' :: '[' :: _ => false
  | '[' :: ']' :: _ => false
  | '[' :: '^' :: ']' :: _ => false
  | '[' :: cs => plainTail (depth + 1) cs
  | ']' :: cs => depth = 0 || plainTail (depth - 1) cs
  | _ :: cs => plainTail depth cs

/-- Is the class behind an opening bracket plain? -/
def plainClass (cs : List Char) : Bool := plainTail 0 (passOver ']' (passOver '^' cs).2).2

/-- Are there no blanks between the braces behind an opening brace, or more than numbers and
commas? -/
def plainCount (cs : List Char) : Bool :=
  let w := cs.takeWhile (· != '}')
  !(w.any isBlank && w.all fun c => isDigit c || c = ',' || isBlank c)

/-- Do the flags leave verbose mode off? -/
def plainFlags (cs : List Char) : Bool :=
  !((cs.takeWhile isFlagChar).takeWhile (· != '-')).contains 'x'

/-- Does the name of a group hold nothing that means something to the screening? -/
def plainName (cs : List Char) : Bool := (cs.takeWhile (· != '>')).all fun c => c ∉ specials

/-- Is the group behind an opening parenthesis plain? -/
def plainGroup : List Char → Bool
  | '?' :: 'P' :: '<' :: cs | '?' :: '<' :: cs => plainName cs
  | '?' :: cs => plainFlags cs
  | _ => true

/-- Is the token at the front of a text plain? -/
def plainFront : List Char → Bool
  | '[' :: cs => plainClass cs
  | '{' :: cs => plainCount cs
  | '(' :: cs => plainGroup cs
  | _ => true

/-- The rests of a pattern at which its tokens begin, where the first `skip` characters belong to the
token before. -/
def frontsFrom : Nat → List Char → List (List Char)
  | _, [] => []
  | skip + 1, _ :: cs => frontsFrom skip cs
  | 0, c :: cs => (c :: cs) :: frontsFrom (token c cs).2 cs

/-- **Every token of the pattern is plain.** -/
def IsPlain (cs : List Char) : Prop := ∀ front ∈ frontsFrom 0 cs, plainFront front = true

instance (cs : List Char) : Decidable (IsPlain cs) := by unfold IsPlain; infer_instance

end PostingRules.Guard
