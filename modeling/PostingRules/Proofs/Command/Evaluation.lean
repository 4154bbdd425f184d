import PostingRules.Command.Run
import PostingRules.Proofs.Command.Session
import PostingRules.Proofs.Store.Recording

/-!
# Evaluating a transaction

* `Invocation.pathOn`, `Invocation.workspaceOn`: the table and the workspace of a command;
* `evaluationLines`, `recordedLine`: what is said;
* `perform_evaluateOne`, `perform_recordUse_of_ok`: what is read and counted, step by step;
* `Evaluates`: what evaluating does with the open table; `evaluateOne_evaluates`: it does no more;
* `Evaluates.unchanged`, `Evaluates.of_ok`, `Evaluates.of_error`, `Evaluates.eq_ok_iff`: the four things
  that are read off it;
* **`evaluate_records`**: what the command does with its table.
-/

namespace PostingRules

open PostingRules.Disk Run

/-- The path of the table of a command, as the disk it begins on has it. -/
def Invocation.pathOn (i : Invocation) (d : Disk) : String :=
  i.database.getD (Settings.load d).databasePath

/-- The workspace of a command, as the disk it begins on has it. -/
def Invocation.workspaceOn (i : Invocation) (d : Disk) : String :=
  i.workspace.getD (Settings.load d).workspace

/-- The lines about a transaction and its matches. -/
def evaluationLines (t : Transaction) (es : List Evaluation) : List String :=
  Report.transactionLine t ::
    if es.isEmpty then ["No rules matched."]
    else (Report.evaluationsGrid es).text :: Report.suggestionLines (suggestions es)

/-- The line about a rule that has been counted. -/
def recordedLine (r : StoredRule) : String :=
  "Recorded match for rule " ++ toString r.id ++ " (used " ++ toString r.usageCount ++ " times)"

/-- Count a rule at a point in time, and say so. -/
def recordUse (ws : String) (id : Int) (now : Stamp) : Run Unit :=
  onRules (Store.recordMatch ws id now) >>= fun r => say (recordedLine r)

variable {σ σ' : Session} {ws path : String} {t : Transaction} {record : Bool} {es : List Evaluation}
  {e : Evaluation}

/-! ## The open table -/

theorem perform_evaluateOne_of_error {f : StoreFault} (h : σ.rules.evaluate ws t = .error f) :
    perform (evaluateOne ws t record) σ = (.error (.store f), σ) := by
  have hread : perform (ofRules (Store.evaluate ws t)) σ = (.error (.store f), σ) := by
    rw [perform_ofRules, h]
    rfl
  rw [evaluateOne, perform_bind_of_error hread]

/-- **Evaluating** says what matches, and counts the rule that is acted on if it is told to. -/
theorem perform_evaluateOne (h : σ.rules.evaluate ws t = .ok es) :
    perform (evaluateOne ws t record) σ =
      match if record then decision? es else none with
      | some e => perform (recordUse ws e.ruleId σ.now) (told (evaluationLines t es) σ)
      | none => (.ok (), told (evaluationLines t es) σ) := by
  have hread : perform (ofRules (Store.evaluate ws t)) σ = (.ok es, σ) := by
    rw [perform_ofRules, h]
    rfl
  rw [evaluateOne, perform_bind_of_ok hread, perform_bind_of_ok (perform_say _ _), evaluationLines]
  by_cases hes : es = []
  · have hempty : es.isEmpty = true := List.isEmpty_iff.mpr hes
    rw [if_pos hempty, if_pos hempty, decision?_eq_none_iff.mpr hes, ite_self, perform_say,
      told_told]
    rfl
  · have hempty : ¬ es.isEmpty = true := by rwa [List.isEmpty_iff]
    rw [if_neg hempty, if_neg hempty, perform_bind_of_ok (perform_say _ _),
      perform_bind_of_ok (perform_forM_say _ _), told_told, told_told]
    obtain ⟨e, he⟩ := Option.ne_none_iff_exists'.mp (mt decision?_eq_none_iff.mp hes)
    have hacted : actedOn? es = some e.ruleId := by
      rw [actedOn?, ← decision?, he]
      rfl
    rw [he, hacted]
    cases record <;> rfl

theorem perform_recordUse_of_ok {id : Int} {now : Stamp} {x : StoredRule}
    (h : (Store.recordMatch ws id now σ.rules).1 = .ok x) :
    perform (recordUse ws id now) σ =
      (.ok (), told [recordedLine x] (keep (Store.recordMatch ws id now σ.rules).2 σ)) := by
  rw [recordUse, perform_bind, perform_onRules, h]
  exact perform_say _ _

theorem perform_recordUse_of_error {id : Int} {now : Stamp} {f : StoreFault}
    (h : (Store.recordMatch ws id now σ.rules).1 = .error f) :
    perform (recordUse ws id now) σ =
      (.error (.store f), keep (Store.recordMatch ws id now σ.rules).2 σ) := by
  rw [recordUse, perform_bind, perform_onRules, h]
  rfl

/-! ## The command -/

theorem perform_run_evaluate (database workspace : Option String) (t : Transaction) (record : Bool)
    (σ : Session) : perform (Invocation.run ⟨database, workspace, .evaluate t record⟩) σ =
      perform (openRules (Invocation.pathOn ⟨database, workspace, .evaluate t record⟩ σ.disk) >>=
        fun _ => evaluateOne
          (Invocation.workspaceOn ⟨database, workspace, .evaluate t record⟩ σ.disk) t record) σ := by
  rw [Invocation.run, perform_bind_of_ok (perform_get σ)]
  rfl

/-- What evaluating does with the open table `s`, which it leaves as `s'`, and what it says: it reads
the table and says what matches, it counts the rule that is acted on, or that fails because the count is
at its end. -/
inductive Evaluates (ws : String) (t : Transaction) (record : Bool) (now : Stamp) (s s' : Store) :
    Except Failure Unit → String → Prop
  | unreadable {f : StoreFault} (hf : s.evaluate ws t = .error f) (hs : s' = s) :
    Evaluates ws t record now s s' (.error (.store f)) ""
  | read {es : List Evaluation} (hes : s.evaluate ws t = .ok es) (hrecord : record = false ∨ es = [])
    (hs : s' = s) : Evaluates ws t record now s s' (.ok ()) (saying (evaluationLines t es))
  | counted {es : List Evaluation} {e : Evaluation} {x : StoredRule}
    (hes : s.evaluate ws t = .ok es) (hrecord : record = true) (he : decision? es = some e)
    (hs : s.CountsOnce ws e.ruleId now s') :
    Evaluates ws t record now s s' (.ok ()) (saying (evaluationLines t es ++ [recordedLine x]))
  | full {es : List Evaluation} {e : Evaluation} {r : Row} {f : StoreFault}
    (hes : s.evaluate ws t = .ok es) (hrecord : record = true) (he : decision? es = some e)
    (hr : s.find? ws e.ruleId = some r) (hfull : r.usageCount = .int Text.maxInt64) :
    Evaluates ws t record now s s' (.error (.store f)) (saying (evaluationLines t es))

theorem evaluate_empty (ws : String) (t : Transaction) :
    ({} : Store).evaluate ws t = .ok [] := by
  have hlist : ({} : Store).list ws = .ok [] :=
    Store.list_eq_ok_iff.mpr ⟨nofun, by simp [Store.listing, Store.inWorkspace]⟩
  rw [Store.evaluate, Store.listActive, hlist]
  rfl

/-- A table with a rule that is acted on is not empty. -/
theorem ne_empty_of_decision? {s : Store} (hes : s.evaluate ws t = .ok es)
    (he : decision? es = some e) : s ≠ {} := by
  rintro rfl
  rw [evaluate_empty] at hes
  cases hes
  cases he

/-- The count of the rule that is acted on is the largest number. -/
def CountIsFull (s : Store) (ws : String) (es : List Evaluation) : Prop :=
  ∃ e r, decision? es = some e ∧ s.find? ws e.ruleId = some r ∧
    r.usageCount = .int Text.maxInt64

section

variable {now : Stamp} {s s' : Store} {result : Except Failure Unit} {said : String}

theorem Evaluates.unchanged (h : Evaluates ws t record now s s' result said)
    (hread : record = false ∨ s.evaluate ws t = .ok []) : s' = s := by
  have hnone : ∀ {es e}, s.evaluate ws t = .ok es → record = true → decision? es = some e →
      s' = s := by
    rintro es e hes rfl he
    rw [hes] at hread
    simp only [Bool.true_eq_false, Except.ok.injEq, false_or] at hread
    rw [decision?_eq_none_iff.mpr hread] at he
    cases he
  cases h with
  | unreadable _ hs => exact hs
  | read _ _ hs => exact hs
  | counted hes hrecord he _ => exact hnone hes hrecord he
  | full hes hrecord he _ _ => exact hnone hes hrecord he

theorem Evaluates.of_ok (h : Evaluates ws t record now s s' (.ok ()) said) :
    ∃ es more, s.evaluate ws t = .ok es ∧ said = saying (evaluationLines t es ++ more) ∧
      (record = true → es ≠ [] → ∃ e, decision? es = some e ∧ s.CountsOnce ws e.ruleId now s') := by
  cases h with
  | @read es hes hrecord hs =>
    refine ⟨es, [], hes, by rw [List.append_nil], fun htrue hne => ?_⟩
    rcases hrecord with hfalse | hnil
    · rw [htrue] at hfalse
      cases hfalse
    · exact absurd hnil hne
  | @counted es e x hes hrecord he hs =>
    exact ⟨es, [recordedLine x], hes, rfl, fun _ _ => ⟨e, he, hs⟩⟩

theorem Evaluates.of_error {f : Failure} (h : Evaluates ws t record now s s' (.error f) said) :
    s' = s ∨ record = true ∧ ∃ es, s.evaluate ws t = .ok es ∧ CountIsFull s ws es := by
  cases h with
  | unreadable _ hs => exact Or.inl hs
  | full hes hrecord he hr hfull => exact Or.inr ⟨hrecord, _, hes, _, _, he, hr, hfull⟩

/-- **Evaluating succeeds** where the table can be read, but for a count that is at its end. -/
theorem Evaluates.eq_ok_iff (h : Evaluates ws t record now s s' result said) :
    result = .ok () ↔
      ∃ es, s.evaluate ws t = .ok es ∧ ¬ (record = true ∧ CountIsFull s ws es) := by
  cases h with
  | unreadable hf _ => simp [hf]
  | @read es hes hrecord _ =>
    refine iff_of_true rfl ⟨es, hes, ?_⟩
    rintro ⟨htrue, e, r, he, -⟩
    rcases hrecord with rfl | rfl
    · cases htrue
    · cases he
  | @counted es e x hes _ he hs =>
    refine iff_of_true rfl ⟨es, hes, ?_⟩
    rintro ⟨-, e', r, he', hr, hfull⟩
    rw [he] at he'
    cases he'
    exact hs.usageCount_ne hr hfull
  | full hes hrecord he hr hfull =>
    refine iff_of_false nofun ?_
    rintro ⟨es', hes', hnot⟩
    rw [hes] at hes'
    cases hes'
    exact hnot ⟨hrecord, _, _, he, hr, hfull⟩

end

theorem evaluateOne_evaluates (ws : String) (t : Transaction) (record : Bool)
    (hopen : IsOpen path σ) :
    ∃ result σ' said, perform (evaluateOne ws t record) σ = (result, σ') ∧
      σ'.said = σ.said ++ said ∧
      Evaluates ws t record σ.now σ.rules (σ'.disk.tableAt path) result said := by
  cases hes : σ.rules.evaluate ws t with
  | error f =>
    rw [perform_evaluateOne_of_error hes]
    exact ⟨_, _, "", rfl, String.append_empty.symm, .unreadable hes hopen.1⟩
  | ok es =>
    have htold : IsOpen path (told (evaluationLines t es) σ) := hopen
    rw [perform_evaluateOne hes]
    cases hd : if record then decision? es else none with
    | none =>
      refine ⟨_, _, _, rfl, rfl, .read hes ?_ hopen.1⟩
      cases record with
      | false => exact Or.inl rfl
      | true => exact Or.inr (decision?_eq_none_iff.mp hd)
    | some e =>
      obtain ⟨rfl, he⟩ : record = true ∧ decision? es = some e := by
        cases record with
        | false => cases hd
        | true => exact ⟨rfl, hd⟩
      -- a match needs a rule, so the table is in a file and the disk holds what is kept
      have hne : σ.rules ≠ {} := ne_empty_of_decision? hes he
      rcases Store.recordMatch_of_decision hes he σ.now with
        ⟨⟨x, hx⟩, hcounts⟩ | ⟨⟨f, hf⟩, r, hr, hfull⟩
      · refine ⟨_, _, _, perform_recordUse_of_ok hx,
          congrArg Session.said (told_told _ [recordedLine x] σ), .counted hes rfl he ?_⟩
        rw [told_disk, htold.tableAt_keep hne]
        exact hcounts
      · exact ⟨_, _, _, perform_recordUse_of_error hf, rfl, .full hes rfl he hr hfull⟩

/-- **The command** cannot open its table, and leaves what is found at its path, or evaluates. -/
theorem run_evaluate_cases (database workspace : Option String) (t : Transaction) (record : Bool)
    (σ : Session) :
    let i : Invocation := ⟨database, workspace, .evaluate t record⟩
    let path := i.pathOn σ.disk
    let s := σ.disk.tableAt path
    ∃ result σ', perform i.run σ = (result, σ') ∧
      ((∃ f, (perform (openRules path) σ).1 = .error f ∧ result = .error f ∧
          σ'.disk.tableAt path = s) ∨
        (perform (openRules path) σ).1 = .ok () ∧ ∃ said, σ'.said = σ.said ++ said ∧
          Evaluates (i.workspaceOn σ.disk) t record σ.now s (σ'.disk.tableAt path) result said) := by
  intro i path s
  rw [perform_run_evaluate]
  rcases openRules_cases path σ with ⟨f, d, hfails, hgrows⟩ | ⟨d, place, hopens, hopen, -⟩
  · rw [perform_bind_of_error hfails, hfails]
    exact ⟨_, _, rfl, Or.inl ⟨f, rfl, rfl, hgrows.tableAt path⟩⟩
  · rw [perform_bind_of_ok hopens, hopens]
    obtain ⟨result, σ', said, hrun, hsaid, hev⟩ :=
      evaluateOne_evaluates (i.workspaceOn σ.disk) t record hopen
    exact ⟨result, σ', hrun, Or.inr ⟨rfl, said, hsaid, hev⟩⟩

/-- **The command records the rule that is acted on, and no other.** If it is not told to record, or no
rule matches, the table stays as it was, whether it succeeds or not. If it succeeds, it says what
matches, and where it records a match the table changes in one row, that of the evaluation that books
and else of the first: it is counted once more, and last matched now. If it fails, the table stays as it
was, unless a match is recorded and the count of that rule is the largest number. It succeeds if the
table can be opened and read, and but for that count. -/
theorem evaluate_records (database workspace : Option String) (t : Transaction) (record : Bool)
    (σ : Session) :
    let i : Invocation := ⟨database, workspace, .evaluate t record⟩
    let path := i.pathOn σ.disk
    let ws := i.workspaceOn σ.disk
    let s := σ.disk.tableAt path
    let result := (perform i.run σ).1
    let σ' := (perform i.run σ).2
    let s' := σ'.disk.tableAt path
    (record = false ∨ s.evaluate ws t = .ok [] → s' = s) ∧
    (result = .ok () → ∃ es more, s.evaluate ws t = .ok es ∧
      σ'.said = σ.said ++ saying (evaluationLines t es ++ more) ∧
      (record = true → es ≠ [] →
        ∃ e, decision? es = some e ∧ s.CountsOnce ws e.ruleId σ.now s')) ∧
    (result ≠ .ok () → s' = s ∨
      record = true ∧ ∃ es, s.evaluate ws t = .ok es ∧ CountIsFull s ws es) ∧
    (result = .ok () ↔ (perform (openRules path) σ).1 = .ok () ∧
      ∃ es, s.evaluate ws t = .ok es ∧ ¬ (record = true ∧ CountIsFull s ws es)) := by
  intro i path ws s result σ' s'
  obtain ⟨result', σ'', hrun, hcases⟩ := run_evaluate_cases database workspace t record σ
  have hresult : result = result' := congrArg Prod.fst hrun
  have hσ' : σ' = σ'' := congrArg Prod.snd hrun
  rw [← hresult, ← hσ'] at hcases
  clear hrun hresult hσ' result' σ''
  rcases hcases with ⟨f, hopen, hresult, hs⟩ | ⟨hopen, said, hsaid, hev⟩
  · have hne : result ≠ .ok () := by rw [hresult]; exact nofun
    have hopen' : (perform (openRules path) σ).1 ≠ .ok () := by rw [hopen]; exact nofun
    exact ⟨fun _ => hs, fun h => absurd h hne, fun _ => Or.inl hs,
      iff_of_false hne fun h => hopen' h.1⟩
  · refine ⟨hev.unchanged, fun hok => ?_, fun hne => ?_, ?_⟩
    · rw [hok] at hev
      obtain ⟨es, more, hes, rfl, hcounts⟩ := hev.of_ok
      exact ⟨es, more, hes, hsaid, hcounts⟩
    · cases hresult : result with
      | ok u => exact absurd hresult hne
      | error f =>
        rw [hresult] at hev
        exact hev.of_error
    · rw [hev.eq_ok_iff]
      exact (and_iff_right hopen).symm

/-- A session on a disk with a table of rules in the working directory. -/
def mixedSession : Session :=
  { disk := (Disk.fresh ["home"]).put ["home", "rules.db"] (.table Store.mixedRows), now := 7 }

/-- Match a transaction against the rules of that table, and record it. -/
def recordRent : Invocation := ⟨some "rules.db", some "acme", .evaluate ⟨"rent", .zero⟩ true⟩

theorem exists_evaluate_mixedRows :
    ∃ es, Store.mixedRows.evaluate "acme" ⟨"rent", .zero⟩ = .ok es ∧ es ≠ [] := by
  have hlist := Store.list_eq_ok_iff.mpr ⟨(by decide : ∀ r ∈ Store.mixedRows.rows,
    r.workspace = "acme" → r.Integral), rfl⟩
  obtain ⟨es, top, hes, -, hperm, -⟩ := Store.evaluate_perm_pairwise ⟨"rent", .zero⟩ hlist
  refine ⟨es, hes, ?_⟩
  rintro rfl
  have hrow : Store.textRow 1 (.int 2) "contains" "rent" true ∈
      Store.mixedRows.inWorkspace "acme" := by decide
  have hsome : (Row.evaluation? top ⟨"rent", .zero⟩
      (Store.textRow 1 (.int 2) "contains" "rent" true)).isSome = true := rfl
  obtain ⟨e, he⟩ := Option.isSome_iff_exists.mp hsome
  exact absurd (hperm.mem_iff.mpr (List.mem_filterMap.mpr ⟨_, hrow, he⟩)) List.not_mem_nil

theorem evaluate_records_mixedSession :
    mixedSession.disk.tableAt "rules.db" = Store.mixedRows ∧
      (perform recordRent.run mixedSession).1 = .ok () ∧
      ∃ e : Evaluation, Store.mixedRows.CountsOnce "acme" e.ruleId 7
        ((perform recordRent.run mixedSession).2.disk.tableAt "rules.db") := by
  have htable : mixedSession.disk.tableAt "rules.db" = Store.mixedRows := by decide +kernel
  have hopen : (perform (openRules "rules.db") mixedSession).1 = .ok () := by decide +kernel
  have hcount : ∀ r ∈ Store.mixedRows.rows, r.usageCount ≠ .int Text.maxInt64 := by decide
  have hpath : Invocation.pathOn ⟨some "rules.db", some "acme",
    .evaluate ⟨"rent", .zero⟩ true⟩ mixedSession.disk = "rules.db" := rfl
  have hws : Invocation.workspaceOn ⟨some "rules.db", some "acme",
    .evaluate ⟨"rent", .zero⟩ true⟩ mixedSession.disk = "acme" := rfl
  obtain ⟨es, hes, hne⟩ := exists_evaluate_mixedRows
  have hall := evaluate_records (some "rules.db") (some "acme") ⟨"rent", .zero⟩ true mixedSession
  simp only [hpath, hws, htable] at hall
  obtain ⟨-, hok, -, hiff⟩ := hall
  have hresult := hiff.mpr ⟨hopen, es, hes, fun ⟨_, _, r, _, hr, hfull⟩ =>
    hcount r (Store.find?_eq_some_iff.mp hr).1 hfull⟩
  obtain ⟨es', -, hes', -, hcounts⟩ := hok hresult
  rw [hes] at hes'
  cases hes'
  obtain ⟨e, -, hcounts⟩ := hcounts trivial hne
  exact ⟨htable, hresult, e, hcounts⟩

end PostingRules
