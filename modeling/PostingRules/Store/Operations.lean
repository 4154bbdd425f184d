import PostingRules.Store.Fields

/-!
# Operations on stored rules

Every operation is for one workspace. It answers a result or why there is none, and the table
afterwards: a row is read again after it was written, so an operation can fail and leave its write
behind.

* `get`, `list`, `listActive`, `evaluate`: reading;
* `create`, `update`, `setActive`, `delete`, `reprioritize`, `recordMatch`: writing.
-/

namespace PostingRules.Store

/-- An operation on the table. -/
abbrev Operation (α : Type) := Store → Except StoreFault α × Store

/-! ## Reading -/

/-- The rule with an id. -/
def get (ws : String) (id : Int) (s : Store) : Except StoreFault StoredRule :=
  match s.find? ws id with
  | none => .error (.noRule id)
  | some r => r.read

/-- May the row `a` be listed before `b`? The higher priority comes first, then the lower id. -/
def listedBefore (a b : Row) : Bool :=
  if a.priority = b.priority then a.id ≤ b.id else b.priority.le a.priority

/-- The rules of a workspace, highest priority first. Rows that name no kinds are left out. -/
def list (ws : String) (s : Store) : Except StoreFault (List StoredRule) :=
  (((s.inWorkspace ws).mergeSort listedBefore).mapM Row.cells).map fun cs =>
    cs.filterMap fun c => c.rule.toOption

/-- The active rules of a workspace, highest priority first. -/
def listActive (ws : String) (s : Store) : Except StoreFault (List StoredRule) :=
  (s.list ws).map fun rs => rs.filter (·.active)

/-- The evaluations of a transaction against the active rules of a workspace. -/
def evaluate (ws : String) (t : Transaction) (s : Store) : Except StoreFault (List Evaluation) :=
  (s.listActive ws).map fun rs => evaluations (rs.map (·.toRule)) t

/-! ## Writing -/

/-- The row of a new rule. -/
def newRow (s : Store) (ws : String) (r : NewRule) : Row where
  id := s.nextId
  workspace := ws
  name := r.name
  description := r.description
  priority := match r.priority with
    | some p => .int p
    | none => s.nextPriority ws
  active := r.active
  condition := r.condition.name
  value := r.value
  action := r.action.name
  target := r.target
  usageCount := .int 0
  lastMatch := none

theorem newRow_id_notMem (s : Store) (ws : String) (r : NewRule) :
    (s.newRow ws r).id ∉ s.rows.map (·.id) := s.nextId_notMem

/-- Store a rule. -/
def create (ws : String) (r : NewRule) : Operation StoredRule := fun s =>
  match r.check with
  | .error f => (.error (.field f), s)
  | .ok () =>
    let s' := s.append (s.newRow ws r) (s.newRow_id_notMem ws r)
    (s'.get ws s.nextId, s')

/-- A row with those fields of a rule that may be changed. -/
def overwrite (new : StoredRule) (r : Row) : Row :=
  { r with
    name := new.name
    description := new.description
    priority := .int new.priority
    active := new.active
    condition := new.condition.name
    value := new.value
    action := new.action.name
    target := new.target }

@[simp] theorem overwrite_id (new : StoredRule) (r : Row) : (overwrite new r).id = r.id := rfl

@[simp] theorem overwrite_workspace (new : StoredRule) (r : Row) :
    (overwrite new r).workspace = r.workspace := rfl

/-- Change some fields of a rule. -/
def update (ws : String) (id : Int) (u : RuleUpdate) : Operation StoredRule := fun s =>
  match s.get ws id with
  | .error e => (.error e, s)
  | .ok old =>
    let new := u.onto old
    match new.check with
    | .error f => (.error (.field f), s)
    | .ok () =>
      let s' := s.modify ws id (overwrite new) (overwrite_id new)
      (s'.get ws id, s')

/-- Switch a rule on or off. -/
def setActive (ws : String) (id : Int) (active : Bool) : Operation StoredRule :=
  update ws id { active := some active }

/-- Remove a rule. -/
def delete (ws : String) (id : Int) : Operation Unit := fun s =>
  match s.find? ws id with
  | none => (.error (.noRule id), s)
  | some _ => (.ok (), s.erase ws id)

/-- A row with another priority. -/
def prioritized (p : Int) (r : Row) : Row := { r with priority := .int p }

@[simp] theorem prioritized_id (p : Int) (r : Row) : (prioritized p r).id = r.id := rfl

/-- Set the priorities of rules one after another, if all of them are there. -/
def assign (ws : String) : List (Int × Int) → Store → Except StoreFault Store
  | [], s => .ok s
  | (id, p) :: ps, s =>
    match s.find? ws id with
    | none => .error (.noRule id)
    | some _ => assign ws ps (s.modify ws id (prioritized p) (prioritized_id p))

/-- Set the priorities of some rules, all or none. -/
def reprioritize (ws : String) (ps : List (Int × Int)) : Operation Unit := fun s =>
  match ps.forM fun p => checkPriority p.2 with
  | .error f => (.error (.field f), s)
  | .ok () =>
    match assign ws ps s with
    | .error e => (.error e, s)
    | .ok s' => (.ok (), s')

/-- A row that was used once more, at a point in time. -/
def used (now : Stamp) (r : Row) : Row :=
  { r with usageCount := r.usageCount.succ, lastMatch := some now }

@[simp] theorem used_id (now : Stamp) (r : Row) : (used now r).id = r.id := rfl

/-- Count a rule as used at a point in time. -/
def recordMatch (ws : String) (id : Int) (now : Stamp) : Operation StoredRule := fun s =>
  match s.find? ws id with
  | none => (.error (.noRule id), s)
  | some r => ((used now r).read, s.modify ws id (used now) (used_id now))

end PostingRules.Store
