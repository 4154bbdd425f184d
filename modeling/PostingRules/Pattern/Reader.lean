import PostingRules.Pattern.Bracket

/-!
# Reading patterns

One pass over a pattern, with the groups that are open. Flags hold to the end of the group they
stand in.

* `Level`, `Open`, `Progress`: the alternatives of a group, a group that waits for the one inside
  it, and all that has been read;
* `Progress.step`: one piece of a pattern;
* `sizeLimit`: the bytes that a compiled pattern may take;
* **`Pattern.read?`**: the pattern of a text, if it is valid.
-/

namespace PostingRules.PatternReader

open PostingRules.Text

/-- The inside of a group: its finished alternatives, last first, and the parts of the one being
read, last first. A change of flags is a part without a pattern. -/
structure Level where
  branches : List Pattern := []
  parts : List (Option Pattern) := []
  deriving DecidableEq, Repr

/-- The alternative being read. -/
def Level.branch (l : Level) : Pattern := .seqs (l.parts.reverse.filterMap id)

/-- The level at the start of another alternative. -/
def Level.nextBranch (l : Level) : Level := ⟨l.branch :: l.branches, []⟩

/-- The pattern of a finished level. -/
def Level.pattern (l : Level) : Pattern := .alts (l.branch :: l.branches).reverse

/-- The level with one more part. -/
def Level.push (l : Level) (p : Pattern) : Level := { l with parts := some p :: l.parts }

/-- The level with its last part repeated, if it has one that is a pattern. -/
def Level.repeatLast (l : Level) (q : Quantifier) : Option Level :=
  match l.parts with
  | some p :: parts => some { l with parts := some (.repeats q p) :: parts }
  | _ => none

/-- A group around the level being read: whether the inner group captures, the level around it, and
the flags behind it. -/
structure Open where
  capturing : Bool
  level : Level
  flags : Flags
  deriving DecidableEq, Repr

/-- All that has been read: the innermost level, the groups around it, the flags in force and the
names of groups. -/
structure Progress where
  level : Level := {}
  around : List Open := []
  flags : Flags := {}
  names : List (List Char) := []
  deriving DecidableEq, Repr

/-- The progress with one more part. -/
def Progress.push (s : Progress) (p : Pattern) : Progress := { s with level := s.level.push p }

/-- The progress with the last part repeated. -/
def Progress.repeatLast (s : Progress) (q : Quantifier) : Option Progress :=
  (s.level.repeatLast q).map fun l => { s with level := l }

/-- The progress inside a new group. -/
def Progress.enter (s : Progress) (capturing : Bool) (inside : Flags) : Progress :=
  { s with level := {}, around := ⟨capturing, s.level, s.flags⟩ :: s.around, flags := inside }

/-- The progress behind the innermost open group. -/
def Progress.leave (s : Progress) : Option Progress :=
  match s.around with
  | [] => none
  | o :: outer =>
    some { s with level := o.level.push (.group o.capturing s.level.pattern)
                  around := outer
                  flags := o.flags }

/-- The progress inside a group with a name that no other group has. -/
def Progress.enterNamed (s : Progress) (cs : List Char) : Option (Progress × List Char) :=
  (readGroupName cs).bind fun p =>
    if s.names.contains p.1 then none
    else some ({ s with names := p.1 :: s.names }.enter true s.flags, p.2)

/-- What stands behind an opening parenthesis: a named group, a group that does not capture, a
change of flags, or the inside of a group. There is no looking around. -/
def Progress.readGroup (s : Progress) (cs : List Char) : Option (Progress × List Char) :=
  match skip s.flags cs with
  | '?' :: '=' :: _ | '?' :: '!' :: _ => none
  | '?' :: '<' :: '=' :: _ | '?' :: '<' :: '!' :: _ => none
  | '?' :: 'P' :: '<' :: rest => s.enterNamed rest
  | '?' :: '<' :: rest => s.enterNamed rest
  | '?' :: rest =>
    (readFlags [] s.flags rest).map fun (f, ending, rest) =>
      match ending with
      | .colon => (s.enter false f, rest)
      | .paren => ({ s with flags := f, level.parts := none :: s.level.parts }, rest)
  | rest => some (s.enter true s.flags, rest)

/-- The set of one character, with its other cases if case does not count. -/
def literal (f : Flags) (c : Char) : Pattern := .set (f.close (.single c))

/-- The characters that a point matches, all or those that end no line. Without the flag `u` a
point has no meaning in a text. -/
def anyChar (f : Flags) : Option CharSet :=
  if !f.unicode then none
  else if f.dotAll then some (.compl .empty)
  else if f.returns then some (.compl (.union (.single '\n') (.single '\r')))
  else some (.compl (.single '\n'))

/-- The assertion of a circumflex. -/
def caret (f : Flags) : Look :=
  if !f.multiLine then .textStart else if f.returns then .lineStartReturn else .lineStart

/-- The assertion of a dollar sign. -/
def dollar (f : Flags) : Look :=
  if !f.multiLine then .textEnd else if f.returns then .lineEndReturn else .lineEnd

/-- The pattern of an escape. -/
def Escaped.pattern (f : Flags) : Escaped → Pattern
  | .char c => literal f c
  | .set s => .set s
  | .look l => .look l

/-- One piece of a pattern: the progress behind it and the rest. -/
def Progress.step (s : Progress) (c : Char) (cs : List Char) : Option (Progress × List Char) :=
  match c with
  | '(' => s.readGroup cs
  | ')' => s.leave.map (·, cs)
  | '|' => some ({ s with level := s.level.nextBranch }, cs)
  | '[' => (readClass s.flags cs).map fun p => (s.push (.set p.1), p.2)
  | '?' => (s.repeatLast .optional).map (·, dropLazy cs)
  | '*' => (s.repeatLast .star).map (·, dropLazy cs)
  | '+' => (s.repeatLast .plus).map (·, dropLazy cs)
  | '{' => do
    let (q, rest) ← readCount s.flags cs
    let s ← s.repeatLast q
    some (s, rest)
  | '\\' => (readEscape s.flags cs).map fun p => (s.push (p.1.pattern s.flags), p.2)
  | '.' => (anyChar s.flags).map fun a => (s.push (.set a), cs)
  | '^' => some (s.push (.look (caret s.flags)), cs)
  | '$' => some (s.push (.look (dollar s.flags)), cs)
  | c => some (s.push (literal s.flags c), cs)

/-- Read a pattern on. Every piece takes a character at least, so as much fuel as there are
characters suffices. -/
def readFrom : Nat → Progress → List Char → Option Pattern
  | 0, _, _ => none
  | fuel + 1, s, cs =>
    match skip s.flags cs with
    | [] => if s.around.isEmpty then some s.level.pattern else none
    | c :: rest => (s.step c rest).bind fun p => readFrom fuel p.1 p.2

end PostingRules.PatternReader

namespace PostingRules

/-- The bytes that a compiled pattern may take, a mebibyte. -/
def sizeLimit : Nat := 1048576

/-- The pattern of a text, whatever its size. -/
def Pattern.parse? (cs : List Char) : Option Pattern :=
  PatternReader.readFrom (cs.length + 1) {} cs

/-- **The pattern of a text**, if it is valid and not too large. -/
def Pattern.read? (cs : List Char) : Option Pattern :=
  (parse? cs).bind fun p => if p.bytes ≤ sizeLimit then some p else none

end PostingRules
