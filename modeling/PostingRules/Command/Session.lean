import PostingRules.Failure
import PostingRules.Store.Operations

/-!
# Runs

A run changes the disk and says something on two channels. What has been written and said before a
failure stays.

* `Session`, `Run`: the state of a run, and its steps;
* `say`, `warn`: the two channels;
* `makeDirectory`, `writeFile`: the disk;
* `openTable`, `openRules`, `onRules`, `ofRules`: the table of rules.
-/

namespace PostingRules

/-- The state of a run: the disk, the time, the open table with its place, and what has been said. -/
structure Session where
  disk : Disk
  now : Stamp
  place : Option Place := none
  rules : Store := {}
  said : String := ""
  warned : String := ""
  deriving DecidableEq, Repr

/-- A step of a run. -/
abbrev Run (α : Type) := ExceptT Failure (StateM Session) α

namespace Run

/-- Say a line. -/
def say (line : String) : Run Unit := modify fun s => { s with said := s.said ++ line ++ "\n" }

/-- Say a line on the channel of warnings. -/
def warn (line : String) : Run Unit := modify fun s => { s with warned := s.warned ++ line ++ "\n" }

/-- Use the disk. -/
def onDisk {ε α : Type} (fault : ε → Failure) (f : Disk → Except ε α × Disk) : Run α := do
  let s ← get
  let (r, disk) := f s.disk
  set { s with disk := disk }
  match r with
  | .ok a => return a
  | .error e => throw (fault e)

/-- Make a directory with all above it. -/
def makeDirectory (path : String) : Run Unit := onDisk .disk fun d => d.makeAll path

/-- Write a file. -/
def writeFile (path content : String) : Run Unit :=
  onDisk .disk fun d =>
    match d.writeText path content with
    | .ok d' => (.ok (), d')
    | .error e => (.error e, d)

/-! ## The table of rules -/

/-- Open the table of rules at a path. -/
def openTable (path : String) : Run Unit := do
  let (place, rules) ← onDisk .table fun d => d.openTable path
  modify fun s => { s with place := place, rules := rules }

/-- Open the table of rules at a path in a directory that need not be there. -/
def openRules (path : String) : Run Unit := do
  match Path.parent? path with
  | some dir => makeDirectory dir
  | none => pure ()
  openTable path

/-- The session with another table of rules. -/
def keep (rules : Store) (s : Session) : Session :=
  { s with
    rules := rules
    disk := match s.place with
      | some p => s.disk.put p (.table rules)
      | none => s.disk }

/-- Change the open table. -/
def onRules {α : Type} (op : Store.Operation α) : Run α := do
  let (r, rules) := op (← get).rules
  modify (keep rules)
  match r with
  | .ok a => return a
  | .error e => throw (.store e)

/-- Read the open table. -/
def ofRules {α : Type} (f : Store → Except StoreFault α) : Run α := do
  match f (← get).rules with
  | .ok a => return a
  | .error e => throw (.store e)

end Run

end PostingRules
