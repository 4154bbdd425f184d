import PostingRules.Rule.Matching

/-!
# Suggestions

What the matches of a transaction recommend: templates, accounts, and the one rule that books the
transaction without asking.

* `account?`: the account number in the target of a rule;
* `Recommends`: what has an action and a target, matches and evaluations alike;
* `templates`, `accounts`, `autoBook?`;
* **`Suggestions`**, `suggestions`.
-/

namespace PostingRules

open PostingRules.Text

/-- The account number in the target of a rule, 32 bits at most. -/
def account? (target : String) : Option Nat :=
  (readNat maxNat32 (trimList target.toList)).toOption

/-- What recommends an action. -/
class Recommends (α : Type) where
  action : α → ActionKind
  target : α → String

instance : Recommends Match := ⟨(·.rule.action), (·.rule.target)⟩
instance : Recommends Evaluation := ⟨(·.action), (·.target)⟩

section

variable {α : Type} [Recommends α]

/-- Does it recommend an action of this kind? -/
def recommends (k : ActionKind) (m : α) : Bool := Recommends.action m = k

/-- The templates that matches suggest, in their order. -/
def templates (ms : List α) : List String :=
  (ms.filter (recommends .suggestTemplate)).map Recommends.target

/-- The accounts that matches suggest, in their order; targets that are no numbers are dropped. -/
def accounts (ms : List α) : List Nat :=
  (ms.filter (recommends .suggestAccount)).filterMap fun m => account? (Recommends.target m)

/-- The first match that books without asking. -/
def autoBook? (ms : List α) : Option α := ms.find? (recommends .autoBook)

end

/-- **Suggestions** for a transaction. -/
structure Suggestions (α : Type) where
  templates : List String
  accounts : List Nat
  autoBook : Option α
  deriving DecidableEq, Repr

/-- The suggestions of some matches. -/
def suggestions {α : Type} [Recommends α] (ms : List α) : Suggestions α :=
  ⟨templates ms, accounts ms, autoBook? ms⟩

end PostingRules
