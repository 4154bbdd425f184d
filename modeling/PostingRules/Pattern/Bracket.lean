import PostingRules.Pattern.Escape

/-!
# Character classes

* `SetOp`: the operations between the parts of a class;
* `ClassLevel`: a class that is being read;
* `readMember`: a character, a span or a set;
* **`readClass`**: a class behind its opening bracket.
-/

namespace PostingRules.PatternReader

open PostingRules.Text

/-- The operations between the parts of a class. -/
inductive SetOp
  | inter
  | diff
  | symmDiff
  deriving DecidableEq, Repr

/-- The set of an operation. -/
def SetOp.apply : SetOp → CharSet → CharSet → CharSet
  | .inter => .inter
  | .diff => .diff
  | .symmDiff => .symmDiff

/-- A class that is being read: whether it is negated, the operation that waits for its second set,
and the members since. -/
structure ClassLevel where
  negated : Bool
  waiting : Option (SetOp × CharSet)
  members : CharSet
  deriving DecidableEq, Repr

/-- The class with one more set of members. -/
def ClassLevel.add (l : ClassLevel) (s : CharSet) : ClassLevel :=
  { l with members := .union l.members s }

/-- The set of what has been read of a class. Both sets of an operation are closed under case
folding before it. -/
def ClassLevel.combined (f : Flags) (l : ClassLevel) : CharSet :=
  match l.waiting with
  | some (op, s) => op.apply (f.close s) (f.close l.members)
  | none => l.members

/-- The class after an operation sign. -/
def ClassLevel.operate (f : Flags) (l : ClassLevel) (op : SetOp) : ClassLevel :=
  ⟨l.negated, some (op, l.combined f), .empty⟩

/-- The set of a class that is closed; without the flag `u` a complement has no meaning. -/
def ClassLevel.close (f : Flags) (l : ClassLevel) : Option CharSet :=
  if l.negated && !f.unicode then none
  else some (.neg l.negated (f.close (l.combined f)))

/-- The minus signs at the start of a class are literal. -/
def readDashes (f : Flags) (l : ClassLevel) (cs : List Char) : ClassLevel × List Char :=
  match cs with
  | '-' :: rest => readDashes f (l.add (.single '-')) (skip f rest)
  | cs => (l, cs)
  termination_by cs.length
  decreasing_by
    have := length_skip f rest
    simp only [List.length_cons]
    omega

/-- The start of a class: a circumflex, minus signs, and a closing bracket if it comes first. -/
def openClass (f : Flags) (cs : List Char) : ClassLevel × List Char :=
  let (negated, cs) :=
    match skip f cs with
    | '^' :: rest => (true, skip f rest)
    | rest => (false, rest)
  match readDashes f ⟨negated, none, .empty⟩ cs with
  | (l, ']' :: rest) =>
    if l.members = .empty then (l.add (.single ']'), rest) else (l, ']' :: rest)
  | p => p

/-- A named class behind an opening bracket, `:alpha:]` or `:^alpha:]`. -/
def readNamedClass (f : Flags) : List Char → Option (Option CharSet × List Char)
  | ':' :: cs =>
    let (negated, cs) :=
      match cs with
      | '^' :: rest => (true, rest)
      | rest => (false, rest)
    match cs.dropWhile (· != ':') with
    | ':' :: ']' :: rest =>
      (asciiClass? (String.ofList (cs.takeWhile (· != ':')))).map fun s =>
        (if negated && !f.unicode then none else some (.neg negated (f.close s)), rest)
    | _ => none
  | _ => none

/-- A character or an escape of a class. -/
def readItem (f : Flags) : List Char → Option (Escaped × List Char)
  | [] => none
  | '\\' :: cs => readEscape f cs
  | c :: cs => some (.char c, cs)

/-- The span of two characters in order; without the flag `u` both are of ASCII. -/
def span? (f : Flags) (first last : Char) : Option CharSet :=
  if first ≤ last ∧ (f.unicode ∨ last.toNat < 128) then some (.span first last) else none

/-- A member of a class: a character, a span or a set. A minus sign before the closing bracket or
before another minus sign makes no span. -/
def readMember (f : Flags) (cs : List Char) : Option (CharSet × List Char) := do
  let (item, rest) ← readItem f cs
  let isSpan :=
    match skip f rest with
    | '-' :: more => peek f more != some ']' && peek f more != some '-'
    | _ => false
  match item, isSpan with
  | .char c, false => (span? f c c).map (·, skip f rest)
  | .char c, true =>
    let (last, rest) ← readItem f (skip f ((skip f rest).drop 1))
    match last with
    | .char d => (span? f c d).map (·, rest)
    | _ => none
  | .set s, false => some (s, skip f rest)
  | _, _ => none

/-- Read a class on, with the classes around it, innermost first. -/
def readClassFrom (f : Flags) : Nat → List ClassLevel → ClassLevel → List Char →
    Option (CharSet × List Char)
  | 0, _, _, _ => none
  | fuel + 1, outer, l, cs =>
    match skip f cs with
    | [] => none
    | '[' :: rest =>
      match readNamedClass f rest with
      | some (s, rest) => s.bind fun s => readClassFrom f fuel outer (l.add s) rest
      | none =>
        let (inner, rest) := openClass f rest
        readClassFrom f fuel (l :: outer) inner rest
    | ']' :: rest =>
      (l.close f).bind fun s =>
        match outer with
        | [] => some (s, rest)
        | o :: outer => readClassFrom f fuel outer (o.add s) rest
    | '&' :: '&' :: rest => readClassFrom f fuel outer (l.operate f .inter) rest
    | '-' :: '-' :: rest => readClassFrom f fuel outer (l.operate f .diff) rest
    | '~' :: '~' :: rest => readClassFrom f fuel outer (l.operate f .symmDiff) rest
    | rest =>
      (readMember f rest).bind fun p => readClassFrom f fuel outer (l.add p.1) p.2

/-- **A class** behind its opening bracket. -/
def readClass (f : Flags) (cs : List Char) : Option (CharSet × List Char) :=
  let (l, rest) := openClass f cs
  readClassFrom f (rest.length + 1) [] l rest

end PostingRules.PatternReader
