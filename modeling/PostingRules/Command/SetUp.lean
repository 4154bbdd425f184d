import PostingRules.Command.Session
import PostingRules.Settings

/-!
# Setting up

* `Settings.load`: the settings on a disk;
* `dataDirectory`, `Settings.choose`: the settings with a data directory and a workspace that are
  given;
* `Settings.save`: write the settings to the disk;
* **`setUp`**: save the settings, and make the data directory and the table of rules in it.
-/

namespace PostingRules

/-- The directory of the settings. -/
def Settings.directory (home : String) : String := home ++ "/.config/kontoregel"

/-- The file of the settings. -/
def Settings.file (home : String) : String := Settings.directory home ++ "/settings.json"

/-- The settings on a disk. A file that cannot be read counts as empty. -/
def Settings.load (d : Disk) : Settings :=
  Settings.read d.homePath ((d.readText (Settings.file d.homePath)).toOption.getD "")

/-- A data directory as the settings hold it. A tilde at its start is the home directory, and a
directory that is there is written from the root. -/
def dataDirectory (d : Disk) (path : String) : String :=
  match path.toList with
  | '~' :: rest => d.homePath ++ String.ofList rest
  | _ => (d.canonical? path).getD path

/-- The settings with a data directory and a workspace that are given. -/
def Settings.choose (d : Disk) (s : Settings) (dataDir workspace : Option String) : Settings :=
  { s with
    dataDir := (dataDir.map (dataDirectory d)).getD s.dataDir
    workspace := workspace.getD s.workspace }

open Run

/-- Write the settings to their file, in a directory that need not be there. -/
def Settings.save (s : Settings) : Run Unit := do
  let home := (← get).disk.homePath
  makeDirectory (Settings.directory home)
  writeFile (Settings.file home) s.text

/-- Choose a data directory and a workspace, and make the table of rules there. -/
def setUp (dataDir workspace : Option String) : Run Unit := do
  let d := (← get).disk
  let settings := (Settings.load d).choose d dataDir workspace
  settings.save
  makeDirectory settings.dataDir
  openTable settings.databasePath
  say ("Initialized kontoregel at " ++ settings.dataDir ++ " (workspace '" ++
    settings.workspace ++ "')")

end PostingRules
