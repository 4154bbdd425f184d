import PostingRules.Store.Operations

/-!
# Calls

* `Answer`, `Call`: the operations on a table of rules, each with its arguments, and their answers;
* `reading`, `answering`: an operation that only reads, and one with its answer as an `Answer`;
* **`Call.run`**: what a call does for a workspace;
* `Fails`: an operation gives no answer.
-/

namespace PostingRules.Store

/-- What an operation answers. -/
inductive Answer
  | rule (r : StoredRule)
  | rules (rs : List StoredRule)
  | evaluations (es : List Evaluation)
  | done
  deriving DecidableEq, Repr

/-- An operation with its arguments. -/
inductive Call
  | create (r : NewRule)
  | get (id : Int)
  | list
  | listActive
  | evaluate (t : Transaction)
  | update (id : Int) (u : RuleUpdate)
  | setActive (id : Int) (active : Bool)
  | delete (id : Int)
  | reprioritize (ps : List (Int × Int))
  | recordMatch (id : Int) (now : Stamp)
  deriving DecidableEq, Repr

section

variable {α : Type}

/-- An operation that only reads. -/
def reading (f : Store → Except StoreFault α) : Operation α := fun s => (f s, s)

/-- An operation with its answer as one of all answers. -/
def answering (f : α → Answer) (op : Operation α) : Operation Answer := fun s =>
  ((op s).1.map f, (op s).2)

/-- The operation gives no answer. -/
def Fails (op : Operation α) (s : Store) : Prop := ∃ e, (op s).1 = .error e

theorem fails_answering {f : α → Answer} {op : Operation α} {s : Store} :
    Fails (answering f op) s ↔ Fails op s := by
  unfold Fails answering
  cases (op s).1 <;> simp [Except.map]

end

/-- **What a call does** for a workspace. -/
def Call.run (ws : String) : Call → Operation Answer
  | .create r => answering .rule (Store.create ws r)
  | .get id => answering .rule (reading (Store.get ws id))
  | .list => answering .rules (reading (Store.list ws))
  | .listActive => answering .rules (reading (Store.listActive ws))
  | .evaluate t => answering .evaluations (reading (Store.evaluate ws t))
  | .update id u => answering .rule (Store.update ws id u)
  | .setActive id active => answering .rule (Store.setActive ws id active)
  | .delete id => answering (fun _ => .done) (Store.delete ws id)
  | .reprioritize ps => answering (fun _ => .done) (Store.reprioritize ws ps)
  | .recordMatch id now => answering .rule (Store.recordMatch ws id now)

end PostingRules.Store
