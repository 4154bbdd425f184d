import Std.Time.DateTime.Timestamp
import PostingRules.Command.Run
import PostingRules.Store.Text

/-!
# The program

The part of the file system that a command line can touch is read into a `Disk`, the command line is
run on it, and what has changed is written back.
-/

namespace PostingRules.Program

/-- What a file holds. -/
def entryOfText (text : String) : Entry :=
  match Store.ofText? text with
  | some s => .table s
  | none => .text text

/-- What stands at a place of the file system. -/
def entryOnFile (p : Place) : IO (Option Entry) := do
  try
    return some (entryOfText (← IO.FS.readFile (Disk.pathOf p)))
  catch
    | .noFileOrDirectory .. => return none
    | .inappropriateType .. => return some .directory
    | e => throw e

/-- The names of a path. -/
def namesOf (path : String) : Place := (Path.steps path).filter (!·.isEmpty)

/-- The places on the way along a path, with those that its double points lead back from. -/
def visited (d : Disk) (path : String) : List Place :=
  let step (seen : List Place) (n : String) : List Place :=
    let p := seen.headD []
    (if n = ".." then p.dropLast else if n = "." then p else p ++ [n]) :: seen
  ((namesOf path).foldl step [d.start path]).flatMap Disk.way

/-- Take the places on the way along some paths in. -/
def takeIn (d : Disk) (paths : List String) : IO Disk := do
  let mut d := d
  for p in (paths.flatMap (visited d)).mergeSort (fun a b => a.length ≤ b.length) do
    if (d.entry? p).isNone then
      match ← entryOnFile p with
      | some e => d := d.put p e
      | none => pure ()
  return d

/-- The paths that opening a table touches: that of its file, and that above its name. -/
def tablePaths (name : String) : List String :=
  (Path.parent? name).toList ++
  match TableName.read name with
  | .file path _ => [path]
  | _ => []

/-- The paths that an invocation names or takes from the settings. -/
def pathsOf (i : Invocation) (s : Settings) : List String :=
  match i.command with
  | .init _ => s.dataDir :: tablePaths s.databasePath
  | .batch file _ => file :: tablePaths (i.database.getD s.databasePath)
  | _ => tablePaths (i.database.getD s.databasePath)

/-- The settings as an invocation leaves them. -/
def settingsOf (i : Invocation) (d : Disk) : Settings :=
  match i.command with
  | .init dataDir => (Settings.load d).choose d dataDir i.workspace
  | _ => Settings.load d

/-- The disk as far as a command line can touch it. -/
def load (home here : Place) (args : List String) : IO Disk := do
  let d : Disk := ⟨home, here, []⟩
  let d ← takeIn d [Disk.pathOf home, Disk.pathOf here, Settings.file (Disk.pathOf home)]
  match Invocation.read args with
  | .error _ => return d
  | .ok i =>
    let d ← match i.command with
      | .init (some dir) => takeIn d [dir]
      | _ => pure d
    takeIn d (pathsOf i (settingsOf i d))

/-- Write what has changed. -/
def save (before after : Disk) : IO Unit := do
  for (p, e) in after.entries do
    if before.entry? p ≠ some e then
      match e with
      | .directory => IO.FS.createDir (Disk.pathOf p)
      | .text content => IO.FS.writeFile (Disk.pathOf p) content
      | .table s => IO.FS.writeFile (Disk.pathOf p) s.text

/-- Run a command line on the file system. -/
def runOnFiles (args : List String) : IO UInt32 := do
  let home := namesOf ((← IO.getEnv "HOME").getD ".")
  let here := namesOf (toString (← IO.currentDir))
  let now := (← Std.Time.Timestamp.now).toSecondsSinceUnixEpoch.val.toNat
  let d ← load home here args
  let o := run now args d
  save d o.disk
  IO.print o.said
  IO.eprint o.warned
  return o.code.toUInt32

end PostingRules.Program

/-- The program. -/
def main (args : List String) : IO UInt32 := PostingRules.Program.runOnFiles args
