import PostingRules.Json.Reader

/-!
# Settings

* `Settings`, `Settings.defaults`: the data directory, the workspace and the log level;
* `Settings.databasePath`: the file of the rules;
* `Settings.ofValue?`, **`Settings.read`**: the settings of a JSON text, or the defaults;
* **`Settings.text`**: the settings as a JSON text.
-/

namespace PostingRules

/-- The settings of the program. -/
structure Settings where
  dataDir : String
  workspace : String
  logLevel : String
  deriving DecidableEq, Repr

namespace Settings

/-- The workspace where none is given. -/
def defaultWorkspace : String := "default"

/-- The log level where none is given. -/
def defaultLogLevel : String := "warn"

/-- The data directory where none is given. -/
def defaultDataDir (home : String) : String := home ++ "/Documents/kontoregel"

/-- The settings without a file. -/
def defaults (home : String) : Settings := ⟨defaultDataDir home, defaultWorkspace, defaultLogLevel⟩

/-- The path of a name in a directory, with one slash between them. -/
def joinPath (dir name : String) : String :=
  if dir.isEmpty || dir.toList.getLast? = some '/' then dir ++ name else dir ++ "/" ++ name

/-- The file of the rules. -/
def databasePath (s : Settings) : String := joinPath s.dataDir "kontoregel.db"

/-! ## Reading -/

/-- The text of a string value. -/
def text? : Json.Value → Option String
  | .string s => s
  | _ => none

/-- The text of a member that stands at most once, or a default; nothing if it is no text or stands
twice. -/
def member? (ms : List (Option String × Json.Value)) (key : String) (absent : Option String) :
    Option String :=
  match ms.filter (·.1 = some key) with
  | [] => absent
  | [m] => text? m.2
  | _ => none

/-- The settings of a value: an object with the three members by name, or an array with the three in
order. Only the data directory has to be there. -/
def ofValue? : Json.Value → Option Settings
  | .object ms => do
    let d ← member? ms "data_dir" none
    let w ← member? ms "workspace" (some defaultWorkspace)
    let l ← member? ms "log_level" (some defaultLogLevel)
    if ms.all (·.1.isSome) then some ⟨d, w, l⟩ else none
  | .array [d] => (text? d).map (⟨·, defaultWorkspace, defaultLogLevel⟩)
  | .array [d, w] => do some ⟨← text? d, ← text? w, defaultLogLevel⟩
  | .array [d, w, l] => do some ⟨← text? d, ← text? w, ← text? l⟩
  | _ => none

/-- **The settings of a text**, or the defaults if it holds none. -/
def read (home content : String) : Settings :=
  ((Json.read? content.toList).bind ofValue?).getD (defaults home)

/-! ## Writing -/

/-- A member of the written object, on a line of its own. -/
def memberText (key value : String) : List Char :=
  [' ', ' '] ++ Json.quote key.toList ++ [':', ' '] ++ Json.quote value.toList

/-- The characters of the settings as a JSON text. -/
def textList (s : Settings) : List Char :=
  ['\x7b', '\n'] ++ memberText "data_dir" s.dataDir ++ [',', '\n'] ++
    memberText "workspace" s.workspace ++ [',', '\n'] ++
    memberText "log_level" s.logLevel ++ ['\n', '\x7d', '\n']

/-- **The settings as a JSON text**: an object with a member on each line. -/
def text (s : Settings) : String := String.ofList s.textList

end Settings

end PostingRules
