import PostingRules.Disk.Path
import PostingRules.Disk.Uri
import PostingRules.Store.Basic

/-!
# Files and directories

The part of a file system that the program works with: directories, text files and tables of rules
below the root. There are no links.

* `Entry`, `Disk`, `Disk.entry?`: what stands at a place;
* `DiskFault`: why a path cannot be used;
* `Disk.resolve`: the place that a path leads to;
* `Disk.canonical?`, `Disk.readText`, `Disk.writeText`, `Disk.makeAll`: canonical paths, texts, and a
  directory with all above it;
* `Disk.openTable`: the table of rules that a name stands for, made if there is none.
-/

namespace PostingRules

/-- A place: the names from the root to it. -/
abbrev Place := List String

/-- What stands at a place. -/
inductive Entry
  | directory
  | text (content : String)
  | table (s : Store)
  deriving DecidableEq, Repr

/-- Why a path cannot be used. -/
inductive DiskFault
  | missing
  | exists
  | notADirectory
  | isADirectory
  deriving DecidableEq, Repr

/-- The wording of a fault of a path. -/
def DiskFault.message : DiskFault → String
  | .missing => "No such file or directory (os error 2)"
  | .exists => "File exists (os error 17)"
  | .notADirectory => "Not a directory (os error 20)"
  | .isADirectory => "Is a directory (os error 21)"

/-- The home directory, the working directory, and what stands at the places below the root. -/
structure Disk where
  home : Place
  here : Place
  entries : List (Place × Entry)
  deriving DecidableEq, Repr

namespace Disk

/-- What stands at a place. The root is a directory. -/
def entry? (d : Disk) (p : Place) : Option Entry :=
  if p = [] then some .directory else d.entries.lookup p

/-- The disk with an entry at a place. -/
def put (d : Disk) (p : Place) (e : Entry) : Disk :=
  if (d.entries.lookup p).isSome then
    { d with entries := d.entries.map fun q => if q.1 = p then (p, e) else q }
  else { d with entries := d.entries ++ [(p, e)] }

/-- The places on the way to a place, with the place itself. -/
def way (p : Place) : List Place := (List.range p.length).map fun i => p.take (i + 1)

/-- A disk with the directories down to the home directory, where the work is done. -/
def fresh (home : Place) : Disk := ⟨home, home, (way home).map (·, .directory)⟩

/-- The path of a place. -/
def pathOf (p : Place) : String := Path.ofNames true p

/-- The path of the home directory. -/
def homePath (d : Disk) : String := pathOf d.home

/-! ## Places -/

/-- Follow names from a place. Only from a directory a step leads on. -/
def follow (d : Disk) (p : Place) : List String → Except DiskFault Place
  | [] => .ok p
  | n :: ns =>
    match d.entry? p with
    | none => .error .missing
    | some .directory =>
      if n.isEmpty || n = "." then follow d p ns
      else if n = ".." then follow d p.dropLast ns
      else follow d (p ++ [n]) ns
    | some _ => .error .notADirectory

/-- Where a path starts. -/
def start (d : Disk) (path : String) : Place := if Path.isAbsolute path then [] else d.here

/-- The place that a path leads to. Its last name need not be there. -/
def resolve (d : Disk) (path : String) : Except DiskFault Place :=
  if path.isEmpty then .error .missing else d.follow (d.start path) (Path.steps path)

/-- What stands where a path leads to. -/
def entryAt (d : Disk) (path : String) : Except DiskFault Entry := do
  let p ← d.resolve path
  match d.entry? p with
  | some e => .ok e
  | none => .error .missing

/-- Does the path lead to something? -/
def isThere (d : Disk) (path : String) : Bool := (d.entryAt path).toOption.isSome

/-- Does the path lead to a directory? -/
def isDirectory (d : Disk) (path : String) : Bool := (d.entryAt path).toOption = some .directory

/-- The path from the root of what a path leads to, if it leads to something. -/
def canonical? (d : Disk) (path : String) : Option String :=
  if d.isThere path then (d.resolve path).toOption.map pathOf else none

/-! ## Texts -/

/-- The text of a file. The bytes of a table are of no use as a text. -/
def readText (d : Disk) (path : String) : Except DiskFault String := do
  match ← d.entryAt path with
  | .directory => .error .isADirectory
  | .text content => .ok content
  | .table _ => .ok ""

/-- Write a file. -/
def writeText (d : Disk) (path content : String) : Except DiskFault Disk := do
  let p ← d.resolve path
  match d.entry? p with
  | some .directory => .error .isADirectory
  | _ => .ok (d.put p (.text content))

/-! ## Directories -/

/-- Make a directory in one that is there. -/
def make (d : Disk) (path : String) : Except DiskFault Disk :=
  if path.isEmpty then .error .missing
  else
    match d.follow (d.start path) (Path.stepsToMake path) with
    | .error e => .error e
    | .ok p => if (d.entry? p).isSome then .error .exists else .ok (d.put p .directory)

/-- Make a directory, with those `above` it if they are missing, the nearest first. What has been
made stays when a later directory cannot be made. -/
def makeWith (d : Disk) (path : String) (above : List String) : Except DiskFault Unit × Disk :=
  if path.isEmpty then (.ok (), d)
  else
    match d.make path with
    | .ok d' => (.ok (), d')
    | .error .missing =>
      match above with
      | [] => (.error .missing, d)
      | p :: ps =>
        match makeWith d p ps with
        | (.error e, d') => (.error e, d')
        | (.ok (), d') =>
          match d'.make path with
          | .ok d'' => (.ok (), d'')
          | .error e => if d'.isDirectory path then (.ok (), d') else (.error e, d')
    | .error e => if d.isDirectory path then (.ok (), d) else (.error e, d)

/-- Make a directory with all above it that are missing. -/
def makeAll (d : Disk) (path : String) : Except DiskFault Unit × Disk :=
  d.makeWith path (Path.above path)

/-! ## Tables -/

/-- The place of a table: points and double points are worked out on the names alone, and every
place on the way is a directory or missing. -/
def tablePlace (d : Disk) (p : Place) : List String → Option Place
  | [] => some p
  | n :: ns =>
    if n.isEmpty || n = "." then tablePlace d p ns
    else if n = ".." then tablePlace d p.dropLast ns
    else
      match d.entry? p with
      | some .directory | none => tablePlace d (p ++ [n]) ns
      | some _ => none

/-- Open the table of rules in a file, by its path and what may be done with it: its place and its rules.
A missing or empty file becomes an empty table. The name is what was given. -/
def openFile (d : Disk) (name path : String) (access : Access) :
    Except TableFault (Option Place × Store) × Disk :=
  match d.tablePlace (d.start path) (Path.steps path) with
  | none => (.error (.cannotOpen name), d)
  | some p =>
    match d.entry? p with
    | some .directory => (.error (.cannotOpen name), d)
    | some (.table s) =>
      if access = .readOnly then (.error .readOnly, d) else (.ok (some p, s), d)
    | some (.text content) =>
      if !content.isEmpty then (.error .notATable, d)
      else if access = .readOnly then (.error .readOnly, d)
      else (.ok (some p, {}), d.put p (.table {}))
    | none =>
      if access = .created ∧ d.entry? p.dropLast = some .directory then
        (.ok (some p, {}), d.put p (.table {}))
      else (.error (.cannotOpen name), d)

/-- Open the table of rules that a name stands for: its place, if it is a file, and its rules. -/
def openTable (d : Disk) (name : String) : Except TableFault (Option Place × Store) × Disk :=
  match TableName.read name with
  | .memory => (.ok (none, {}), d)
  | .refused f => (.error f, d)
  | .file path access => d.openFile name path access

end Disk

end PostingRules
