import PostingRules.Text.Digits

/-!
# Screening of patterns

A pattern is refused before it is read when its shape invites slow matching: a repetition of a group
that repeats inside, two quantifiers in a row, or a quantified group that does not capture. The
screening works on tokens and knows nothing of flags.

* `Token`, `tokens`: the tokens of a pattern;
* `classLength`, `countLength?`: how far a character class and a counted repetition reach;
* `Reason`: why a pattern is refused;
* `scan`: one pass over the tokens with the open groups and what stood before;
* **`rejection?`**: the reason why a pattern is refused, if it is.
-/

namespace PostingRules.Guard

open PostingRules.Text

/-- The pieces of a pattern that matter for its shape. -/
inductive Token
  /-- A character, an escaped character or a character class. -/
  | literal
  /-- The opening of a group, and whether the group does not capture. -/
  | opening (nonCapturing : Bool)
  /-- A closing parenthesis. -/
  | closing
  /-- A plus sign or an asterisk. -/
  | many
  /-- A repetition count in braces. -/
  | counted
  /-- A question mark. -/
  | optional
  deriving DecidableEq, Repr

/-! ## Tokens -/

/-- How many characters a class takes up to its closing bracket, with `depth` brackets open inside
it; all of them if it is not closed. An escaped character counts for nothing. -/
def classTail (depth : Nat) : List Char → Nat
  | [] => 0
  | ['\\'] => 1
  | '\\' :: _ :: cs => classTail depth cs + 2
  | '[' :: cs => classTail (depth + 1) cs + 1
  | ']' :: cs => if depth = 0 then 1 else classTail (depth - 1) cs + 1
  | _ :: cs => classTail depth cs + 1

/-- Pass over `c` if it stands first: how many characters are passed over, and the rest. -/
def passOver (c : Char) (cs : List Char) : Nat × List Char :=
  match cs with
  | x :: rest => if x = c then (1, rest) else (0, cs)
  | [] => (0, [])

/-- How many characters behind its opening bracket a character class takes. A circumflex and then a
closing bracket at its start are literal. -/
def classLength (cs : List Char) : Nat :=
  let (n, rest) := passOver '^' cs
  let (m, rest) := passOver ']' rest
  n + m + classTail 0 rest

/-- How many characters behind its opening brace a repetition count takes: `n}`, `n,}`, `n,m}` or
`,m}`. -/
def countLength? (cs : List Char) : Option Nat :=
  let least := cs.takeWhile isDigit
  match cs.dropWhile isDigit with
  | '}' :: _ => if least.isEmpty then none else some (least.length + 1)
  | ',' :: rest =>
    let most := rest.takeWhile isDigit
    match rest.dropWhile isDigit with
    | '}' :: _ =>
      if least.isEmpty && most.isEmpty then none else some (least.length + 1 + most.length + 1)
    | _ => none
  | _ => none

/-- May the character stand among the flags of a group? -/
def isFlagChar (c : Char) : Bool :=
  ('a' ≤ c && c ≤ 'z') || ('A' ≤ c && c ≤ 'Z') || c = '-'

/-- Do the characters behind an opening parenthesis begin a group that does not capture, `?:` or
flags such as `?i:`? -/
def isNonCapturing : List Char → Bool
  | '?' :: cs => (cs.dropWhile isFlagChar).head? = some ':'
  | _ => false

/-- The token that begins with `c` before `cs`, and how many characters of `cs` it takes. -/
def token (c : Char) (cs : List Char) : Token × Nat :=
  match c with
  | '\\' => (.literal, min 1 cs.length)
  | '[' => (.literal, classLength cs)
  | '(' => (.opening (isNonCapturing cs), if cs.head? = some '?' then 1 else 0)
  | ')' => (.closing, 0)
  | '+' | '*' => (.many, 0)
  | '{' =>
    match countLength? cs with
    | some n => (.counted, n)
    | none => (.literal, 0)
  | '?' => (.optional, 0)
  | _ => (.literal, 0)

/-- The tokens of a pattern whose first `skip` characters belong to the token before. -/
def tokensFrom : Nat → List Char → List Token
  | _, [] => []
  | skip + 1, _ :: cs => tokensFrom skip cs
  | 0, c :: cs => (token c cs).1 :: tokensFrom (token c cs).2 cs

/-- The tokens of a pattern. -/
def tokens (cs : List Char) : List Token := tokensFrom 0 cs

/-! ## Shape -/

/-- Why a pattern is refused. -/
inductive Reason
  | tooLong
  | nested
  | doubled
  | nonCapturing
  deriving DecidableEq, Repr

/-- The longest pattern that is not refused for its length. -/
def maxLength : Nat := 200

/-- The wording of a reason. -/
def Reason.message : Reason → String
  | .tooLong => "pattern is longer than 200 characters"
  | .nested => "nested quantifier: quantified group contains a quantifier"
  | .doubled => "doubled quantifier"
  | .nonCapturing => "quantified non-capturing group"

/-- A group: whether it does not capture, and whether it has a plus sign or an asterisk inside. -/
structure Group where
  nonCapturing : Bool
  repeats : Bool
  deriving DecidableEq, Repr

/-- What stands directly before a token. -/
inductive Before
  | nothing
  | atom
  | opening
  | closing (group : Group)
  | quantifier
  | lazyMark
  deriving DecidableEq, Repr

/-- What forbids a repetition behind `before`. -/
def Before.forbids : Before → Option Reason
  | .quantifier | .lazyMark => some .doubled
  | .closing g => if g.nonCapturing then some .nonCapturing else if g.repeats then some .nested else none
  | _ => none

/-- The innermost open group repeats. -/
def markRepeats : List Group → List Group
  | [] => []
  | g :: gs => { g with repeats := true } :: gs

/-- The group is closed: the group around it repeats if it does. -/
def closeInto (g : Group) : List Group → List Group
  | [] => []
  | p :: gs => { p with repeats := p.repeats || g.repeats } :: gs

/-- The open groups, innermost first, and what stands before the next token. -/
structure Shape where
  groups : List Group
  before : Before
  deriving DecidableEq, Repr

/-- The shape after one more token, or the reason why the token may not stand there. -/
def Shape.step (s : Shape) : Token → Except Reason Shape
  | .literal => .ok ⟨s.groups, .atom⟩
  | .opening n => .ok ⟨⟨n, false⟩ :: s.groups, .opening⟩
  | .closing =>
    match s.groups with
    | [] => .ok ⟨[], .atom⟩
    | g :: gs => .ok ⟨closeInto g gs, .closing g⟩
  | .many =>
    match s.before.forbids with
    | some r => .error r
    | none => .ok ⟨markRepeats s.groups, .quantifier⟩
  | .counted =>
    match s.before.forbids with
    | some r => .error r
    | none => .ok ⟨s.groups, .quantifier⟩
  | .optional =>
    match s.before with
    | .quantifier => .ok ⟨s.groups, .lazyMark⟩
    | .lazyMark => .error .doubled
    | .closing g => if g.nonCapturing then .error .nonCapturing else .ok ⟨s.groups, .quantifier⟩
    | _ => .ok ⟨s.groups, .quantifier⟩

/-- The first reason that one pass over the tokens meets. -/
def scan (s : Shape) : List Token → Option Reason
  | [] => none
  | t :: ts =>
    match s.step t with
    | .error r => some r
    | .ok s' => scan s' ts

/-- **The reason why a pattern is refused**, if it is. -/
def rejection? (cs : List Char) : Option Reason :=
  if maxLength < cs.length then some .tooLong else scan ⟨[], .nothing⟩ (tokens cs)

/-- Is the pattern not refused? -/
def isSafe (cs : List Char) : Bool := (rejection? cs).isNone

end PostingRules.Guard
