import PostingRules.Text.Split

/-!
# Paths

A path is written as names with slashes between them. It is followed name by name: a point stays
where it is, two points go up, and an empty name asks for a directory.

* `isAbsolute`, `steps`: how a path is followed;
* `names`, `ofNames`, `parent?`, `chain`: a path without what it says twice, the path above it, and
  all paths above it.
-/

namespace PostingRules.Path

open PostingRules.Text

/-- Does the path start at the root? -/
def isAbsolute (p : String) : Bool := p.toList.head? = some '/'

/-- The names of a path, in order, empty ones included. -/
def steps (p : String) : List String := (splitOn '/' p.toList).map String.ofList

/-- The steps of a path that is to be made: slashes at its end say nothing. -/
def stepsToMake (p : String) : List String :=
  ((steps p).reverse.dropWhile (·.isEmpty)).reverse

/-- The names of a path without empty ones and without points, except a point at its start. -/
def names (p : String) : List String :=
  let kept := (steps p).filter fun n => !n.isEmpty && n != "."
  if !isAbsolute p && (steps p).head? = some "." then "." :: kept else kept

/-- The path of some names. -/
def ofNames (absolute : Bool) (ns : List String) : String :=
  (if absolute then "/" else "") ++ separated "/" ns

/-- The path above, if the path has a name. -/
def parent? (p : String) : Option String :=
  if (names p).isEmpty then none else some (ofNames (isAbsolute p) (names p).dropLast)

/-- The paths of the first names of a list, the longest first. -/
def prefixes (absolute : Bool) : List String → List String
  | [] => [ofNames absolute []]
  | n :: ns => ofNames absolute (n :: ns).reverse :: prefixes absolute ns

/-- The paths above a path, the nearest first. -/
def above (p : String) : List String :=
  match (names p).reverse with
  | [] => []
  | _ :: ns => prefixes (isAbsolute p) ns

end PostingRules.Path
