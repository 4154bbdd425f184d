import PostingRules.Command.Session
import PostingRules.Proofs.Disk.Table

/-!
# Steps of runs

* `perform`: what a run answers, and the session behind it; `perform_bind_of_ok`,
  `perform_bind_of_error`, `perform_bind_eq_ok_iff`: a run step by step;
* `perform_say`, `perform_onRules`, `perform_ofRules`, `perform_forM_say`: what each step does;
* `IsOpen`: the table under a name is open; `IsOpen.tableAt_keep`: what is kept is found again;
* **`openRules_cases`**: opening a table reads what is found at its path, and a run that cannot open it
  has made directories at most;
* **`openRules_of_holds`**: a table that is there is opened.
-/

namespace PostingRules.Run

open PostingRules.Disk

variable {α β : Type} {m : Run α} {f : α → Run β} {σ σ' : Session} {a : α} {e : Failure}

/-- What a run answers, and the session behind it. -/
def perform (m : Run α) (σ : Session) : Except Failure α × Session := m.run σ

/-! ## What is said -/

/-- Lines as they are said. -/
def saying (lines : List String) : String := String.join (lines.map (· ++ "\n"))

/-- The session behind some lines that are said. -/
def told (lines : List String) (σ : Session) : Session := { σ with said := σ.said ++ saying lines }

@[simp] theorem told_disk (lines : List String) (σ : Session) : (told lines σ).disk = σ.disk := rfl

theorem told_nil (σ : Session) : told [] σ = σ := by simp [told, saying]

theorem told_told (front back : List String) (σ : Session) :
    told back (told front σ) = told (front ++ back) σ := by
  simp [told, saying, String.append_assoc]

/-! ## Single steps -/

theorem perform_get (σ : Session) : perform (get : Run Session) σ = (.ok σ, σ) := rfl

theorem perform_bind (m : Run α) (f : α → Run β) (σ : Session) :
    perform (m >>= f) σ = match perform m σ with
      | (.ok a, σ') => perform (f a) σ'
      | (.error e, σ') => (.error e, σ') := by
  change (ExceptT.bindCont f (perform m σ).1 : StateM Session (Except Failure β)) (perform m σ).2 = _
  obtain ⟨_ | a, σ'⟩ := perform m σ <;> rfl

theorem perform_bind_of_ok (h : perform m σ = (.ok a, σ')) :
    perform (m >>= f) σ = perform (f a) σ' := by
  rw [perform_bind, h]

theorem perform_bind_of_error (h : perform m σ = (.error e, σ')) :
    perform (m >>= f) σ = (.error e, σ') := by
  rw [perform_bind, h]

theorem perform_bind_eq_ok_iff {b : β} : perform (m >>= f) σ = (.ok b, σ') ↔
    ∃ a τ, perform m σ = (.ok a, τ) ∧ perform (f a) τ = (.ok b, σ') := by
  rw [perform_bind]
  obtain ⟨_ | a, τ⟩ := perform m σ <;> simp

theorem perform_say (line : String) (σ : Session) :
    perform (say line) σ = (.ok (), told [line] σ) := by
  have hsaid : told [line] σ = { σ with said := σ.said ++ line ++ "\n" } := by
    simp [told, saying, String.append_assoc]
  rw [hsaid]
  rfl

theorem perform_forM_cons (f : α → Run Unit) (a : α) (l : List α) (σ : Session) :
    perform ((a :: l).forM f) σ = perform (f a >>= fun _ => l.forM f) σ := rfl

theorem perform_forM_say (lines : List String) (σ : Session) :
    perform (lines.forM say) σ = (.ok (), told lines σ) := by
  induction lines generalizing σ with
  | nil => rw [told_nil]; rfl
  | cons line lines ih =>
    rw [perform_forM_cons, perform_bind_of_ok (perform_say line σ), ih, told_told]
    rfl

theorem perform_onDisk {ε : Type} (fault : ε → Failure) (f : Disk → Except ε α × Disk)
    (σ : Session) : perform (onDisk fault f) σ =
      ((f σ.disk).1.mapError fault, { σ with disk := (f σ.disk).2 }) := by
  rw [onDisk, perform_bind_of_ok (perform_get σ)]
  obtain ⟨_ | _, disk⟩ := f σ.disk <;> rfl

theorem perform_onRules (op : Store.Operation α) (σ : Session) :
    perform (onRules op) σ = ((op σ.rules).1.mapError .store, keep (op σ.rules).2 σ) := by
  rw [onRules, perform_bind_of_ok (perform_get σ)]
  obtain ⟨_ | _, s⟩ := op σ.rules <;> rfl

theorem perform_ofRules (f : Store → Except StoreFault α) (σ : Session) :
    perform (ofRules f) σ = ((f σ.rules).mapError .store, σ) := by
  rw [ofRules, perform_bind_of_ok (perform_get σ)]
  cases f σ.rules <;> rfl

theorem perform_makeDirectory (path : String) (σ : Session) : perform (makeDirectory path) σ =
    ((σ.disk.makeAll path).1.mapError .disk, { σ with disk := (σ.disk.makeAll path).2 }) :=
  perform_onDisk _ _ σ

theorem perform_writeFile (path content : String) (σ : Session) :
    perform (writeFile path content) σ =
      match σ.disk.writeText path content with
      | .ok d => (.ok (), { σ with disk := d })
      | .error e => (.error (.disk e), σ) := by
  rw [writeFile, perform_onDisk]
  cases σ.disk.writeText path content <;> rfl

theorem perform_openTable (path : String) (σ : Session) : perform (openTable path) σ =
    match σ.disk.openTable path with
    | (.ok (place, s), d) => (.ok (), { σ with disk := d, place := place, rules := s })
    | (.error e, d) => (.error (.table e), { σ with disk := d }) := by
  rw [openTable, perform_bind, perform_onDisk]
  obtain ⟨_ | _, d⟩ := σ.disk.openTable path <;> rfl

theorem perform_makeDirectory_eq_ok_iff {path : String} :
    perform (makeDirectory path) σ = (.ok (), σ') ↔
      ∃ d, σ.disk.makeAll path = (.ok (), d) ∧ σ' = { σ with disk := d } := by
  rw [perform_makeDirectory]
  obtain ⟨_ | _, d⟩ := σ.disk.makeAll path <;> simp [Except.mapError, eq_comm]

theorem perform_openTable_eq_ok_iff {path : String} :
    perform (openTable path) σ = (.ok (), σ') ↔
      ∃ o t d, σ.disk.openTable path = (.ok (o, t), d) ∧
        σ' = { σ with disk := d, place := o, rules := t } := by
  rw [perform_openTable]
  obtain ⟨_ | ⟨o, t⟩, d⟩ := σ.disk.openTable path <;> simp [eq_comm]

/-! ## The open table -/

theorem perform_openRules (path : String) (σ : Session) : perform (openRules path) σ =
    match σ.disk.makeHouse path with
    | (.ok (), d) => perform (openTable path) { σ with disk := d }
    | (.error e, d) => (.error (.disk e), { σ with disk := d }) := by
  unfold openRules makeHouse
  cases Path.parent? path with
  | none => rfl
  | some dir =>
    change perform (makeDirectory dir >>= fun _ => openTable path) σ = _
    rw [perform_bind, perform_makeDirectory]
    simp only
    obtain ⟨_ | _, d⟩ := σ.disk.makeAll dir <;> rfl

/-- **The table of rules under a name is open**: it is the one that is found there, and it stands on the
disk, or it is empty and need not. -/
def IsOpen (path : String) (σ : Session) : Prop :=
  σ.disk.tableAt path = σ.rules ∧ (σ.rules = {} ∨ ∃ p, σ.place = some p ∧
    σ.disk.keptAt path = some p ∧ σ.disk.entry? p = some (.table σ.rules))

theorem isOpen_of_openTable {path : String} {d d' : Disk} {place : Option Place} {s : Store}
    (h : d.openTable path = (.ok (place, s), d')) :
    IsOpen path { σ with disk := d', place := place, rules := s } := by
  refine ⟨tableAt_of_openTable h, ?_⟩
  have hopens := openTable_opens d path
  rw [h] at hopens
  cases hopens with
  | memory _ => exact Or.inl rfl
  | made _ _ => exact Or.inl rfl
  | found hp he => exact Or.inr ⟨_, rfl, hp, he⟩

/-- **A table that is kept** is the one that is found, if it was not empty before. -/
theorem IsOpen.tableAt_keep {path : String} (h : IsOpen path σ) (hne : σ.rules ≠ {}) (s : Store) :
    (Run.keep s σ).disk.tableAt path = s := by
  rcases h.2 with hempty | ⟨p, hp, hkept, he⟩
  · exact absurd hempty hne
  · simp only [Run.keep, hp]
    exact tableAt_put hkept he s

/-- **Opening a table** fails and makes directories at most, or what is found under its name is open. -/
theorem openRules_cases (path : String) (σ : Session) :
    (∃ e d, perform (openRules path) σ = (.error e, { σ with disk := d }) ∧ Grows σ.disk d) ∨
    ∃ d place, perform (openRules path) σ =
        (.ok (), { σ with disk := d, place := place, rules := σ.disk.tableAt path }) ∧
      IsOpen path { σ with disk := d, place := place, rules := σ.disk.tableAt path } ∧
      (σ.disk.Lasts path → ∃ p, place = some p ∧ d.Holds path p (σ.disk.tableAt path)) := by
  rw [perform_openRules]
  have hgrows := makeHouse_grows σ.disk path
  cases hhouse : σ.disk.makeHouse path with
  | mk r d =>
    rw [hhouse] at hgrows
    rw [← hgrows.tableAt]
    cases r with
    | error e => exact Or.inl ⟨_, _, rfl, hgrows⟩
    | ok u =>
      simp only [perform_openTable, Disk.tableAt]
      cases hopen : d.openTable path with
      | mk r d' =>
        cases r with
        | error e =>
          rw [openTable_of_error hopen]
          exact Or.inl ⟨_, _, rfl, hgrows⟩
        | ok r =>
          obtain ⟨place, s⟩ := r
          have hhoused := housed_of_makeHouse hhouse
          exact Or.inr ⟨d', place, rfl, isOpen_of_openTable hopen, fun hlasts =>
            holds_of_openTable (hgrows.extends.lasts hlasts) hhoused hopen⟩

end PostingRules.Run
