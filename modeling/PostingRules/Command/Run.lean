import PostingRules.Command.Report
import PostingRules.Command.SetUp
import PostingRules.CommandLine.Reader

/-!
# Running commands

* `assignment?`: a priority as the command line gives it;
* `listRules`, `evaluateOne`, `evaluateStatement`: the commands that read rules;
* `Invocation.run`: a command;
* `Outcome`, **`run`**: a command line.
-/

namespace PostingRules

open PostingRules.Text Run

/-! ## Commands -/

/-- Say what is wrong with a rule that has been stored. -/
def warnAbout (r : StoredRule) : Run Unit := (Report.warnings r).forM warn

/-- An id and a priority, written as `ID=PRIORITY` with blanks around both or none. -/
def assignment? (text : String) : Option (Int × Int) :=
  match text.toList.dropWhile (· != '=') with
  | [] => none
  | _ :: priority => do
    let id ← (readInt (trimList (text.toList.takeWhile (· != '=')))).toOption
    let p ← (readInt (trimList priority)).toOption
    some (id, p)

/-- An id and a priority, or a failure. -/
def readAssignment (text : String) : Run (Int × Int) :=
  match assignment? text with
  | some p => pure p
  | none => throw (.assignment text)

/-- List the rules of a workspace. -/
def listRules (ws : String) (all : Bool) : Run Unit := do
  let rules ← ofRules (if all then Store.list ws else Store.listActive ws)
  if rules.isEmpty then say ("No rules in workspace '" ++ ws ++ "'.")
  else
    say ("Rules (" ++ ws ++ ")")
    say (Report.rulesGrid all rules).text

/-- The rule that is acted on: the one that books, and else the first match. -/
def actedOn? (es : List Evaluation) : Option Int :=
  ((autoBook? es).or es.head?).map (·.ruleId)

/-- Match a transaction. -/
def evaluateOne (ws : String) (t : Transaction) (record : Bool) : Run Unit := do
  let es ← ofRules (Store.evaluate ws t)
  say (Report.transactionLine t)
  if es.isEmpty then say "No rules matched."
  else
    say (Report.evaluationsGrid es).text
    (Report.suggestionLines (suggestions es)).forM say
    match record, actedOn? es with
    | true, some id =>
      let r ← onRules (Store.recordMatch ws id (← get).now)
      say ("Recorded match for rule " ++ toString r.id ++ " (used " ++ toString r.usageCount ++
        " times)")
    | _, _ => pure ()

/-- The bytes of a statement. -/
def statementBytes (path : String) : Run (List UInt8) := do
  match (← get).disk.readText path with
  | .ok content => return Utf8.encode content.toList
  | .error .isADirectory => throw (.unreadable .isADirectory)
  | .error e => throw (.disk e)

/-- Match every transaction of a statement. -/
def evaluateStatement (ws path : String) (delimiter : Char) : Run Unit := do
  let rules ← ofRules (Store.listActive ws)
  let bytes ← statementBytes path
  match Statement.evaluate (rules.map (·.toRule)) delimiter.toNat.toUInt8 bytes with
  | .error e => throw (.statement e)
  | .ok rows =>
    say (Report.statementGrid rows).text
    say (Report.matchedLine rows)

/-- **A command.** What the invocation does not say of the table and the workspace the settings
say. -/
def Invocation.run (i : Invocation) : Run Unit := do
  let settings := Settings.load (← get).disk
  let path := i.database.getD settings.databasePath
  let ws := i.workspace.getD settings.workspace
  match i.command with
  | .init dataDir => setUp dataDir i.workspace
  | .add r =>
    openRules path
    let r ← onRules (Store.create ws r)
    say (Report.addedLine r)
    warnAbout r
  | .list all =>
    openRules path
    listRules ws all
  | .update id u =>
    openRules path
    let r ← onRules (Store.update ws id u)
    say (Report.doneLine "Updated" r)
    warnAbout r
  | .setActive id active =>
    openRules path
    let r ← onRules (Store.setActive ws id active)
    say (Report.doneLine (if active then "Enabled" else "Disabled") r)
  | .delete id =>
    openRules path
    let r ← ofRules (Store.get ws id)
    onRules (Store.delete ws id)
    say (Report.doneLine "Deleted" r)
  | .reorder texts =>
    let ps ← texts.mapM readAssignment
    openRules path
    onRules (Store.reprioritize ws ps)
    say ("Updated " ++ toString ps.length ++ " priorities")
  | .recordMatch id =>
    openRules path
    let r ← onRules (Store.recordMatch ws id (← get).now)
    say ("Rule " ++ toString r.id ++ " used " ++ toString r.usageCount ++ " times")
  | .test k value t => say (Report.verdict k value t)
  | .evaluate t record =>
    openRules path
    evaluateOne ws t record
  | .batch file delimiter =>
    if 128 ≤ delimiter.toNat then throw (.delimiter delimiter)
    openRules path
    evaluateStatement ws file delimiter

/-! ## Command lines -/

/-- What is left of a run: its code, what it said, and the disk. -/
structure Outcome where
  code : Nat
  said : String
  warned : String
  disk : Disk
  deriving DecidableEq, Repr

/-- The code of a run that failed. -/
def failureCode : Nat := 1

/-- The code of a run whose command line makes no sense. -/
def usageCode : Nat := 2

/-- **Run a command line** at a point in time. -/
def run (now : Stamp) (args : List String) (disk : Disk) : Outcome :=
  match Invocation.read args with
  | .error e => ⟨usageCode, "", e.message ++ "\n", disk⟩
  | .ok i =>
    let (r, s) := (i.run.run ⟨disk, now, none, {}, "", ""⟩ : Except Failure Unit × Session)
    match r with
    | .ok () => ⟨0, s.said, s.warned, s.disk⟩
    | .error e => ⟨failureCode, s.said, s.warned ++ "Error: " ++ e.message ++ "\n", s.disk⟩

end PostingRules
