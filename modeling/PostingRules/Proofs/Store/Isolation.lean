import PostingRules.Proofs.Store.Change
import PostingRules.Proofs.Store.NewRow

/-!
# Workspaces apart

A call is for one workspace. It leaves the rows of the others alone, and of the others it sees no more
than the largest id, as long as ids are counted up.

* `mem_run_foreign`: rows of other workspaces behind a call;
* `SameIn`: two lists hold the same rows of a workspace; what is read there is then the same
  (`find?_congr`, `listing_congr`, `topPriority_congr`);
* `Agree`, **`run_agree`**: calls on such tables answer the same and leave the same rows;
* `Row.untimed`, `Call.madeAt`, `run_madeAt`: calls at different times;
* `nextId_congr`: the next id on tables with the same largest id;
* **`workspaces_apart`**: all of it.
-/

namespace PostingRules

namespace Store

variable {ws : String} {s s' : Store}

/-! ## Rows of other workspaces -/

/-- **A call leaves the rows of other workspaces.** -/
theorem mem_run_foreign (c : Call) {r : Row} (hr : r.workspace ≠ ws) :
    r ∈ (c.run ws s).2.rows ↔ r ∈ s.rows := by
  constructor
  · intro hmem
    rcases (run_changes ws c s).comes r hmem with ⟨r₀, hr₀, hbecomes⟩ | ⟨new, -, -, rfl⟩
    · have hws : r₀.workspace ≠ ws := hbecomes.workspace_eq ▸ hr
      rw [Option.some.inj (hbecomes.eq_of_foreign hws)]
      exact hr₀
    · exact absurd rfl hr
  · intro hmem
    rcases (run_changes ws c s).becomes r hmem with hnone | ⟨r', hr', hbecomes⟩
    · exact absurd (hnone.eq_of_foreign hr) nofun
    · rw [← Option.some.inj (hbecomes.eq_of_foreign hr)]
      exact hr'

/-! ## The same rows of a workspace -/

/-- The lists hold the same rows of a workspace. -/
def SameIn (ws : String) (l l' : List Row) : Prop := ∀ r, r.workspace = ws → (r ∈ l ↔ r ∈ l')

theorem SameIn.map {l l' : List Row} (h : SameIn ws l l') {f : Row → Row}
    (hf : ∀ r, (f r).workspace = r.workspace) : SameIn ws (l.map f) (l'.map f) := by
  have hmem {k k' : List Row} (hk : ∀ r, r.workspace = ws → r ∈ k → r ∈ k') :
      ∀ r, r.workspace = ws → r ∈ k.map f → r ∈ k'.map f := by
    rintro r hws hr
    obtain ⟨r₀, hr₀, rfl⟩ := List.mem_map.mp hr
    exact List.mem_map_of_mem (hk r₀ ((hf r₀).symm.trans hws) hr₀)
  exact fun r hws => ⟨hmem (fun r hws => (h r hws).mp) r hws, hmem (fun r hws => (h r hws).mpr) r hws⟩

theorem SameIn.filter {l l' : List Row} (h : SameIn ws l l') (p : Row → Bool) :
    SameIn ws (l.filter p) (l'.filter p) := fun r hws => by
  rw [List.mem_filter, List.mem_filter, h r hws]

theorem SameIn.append {l l' : List Row} (h : SameIn ws l l') (k : List Row) :
    SameIn ws (l ++ k) (l' ++ k) := fun r hws => by
  rw [List.mem_append, List.mem_append, h r hws]

theorem sameIn_of_inWorkspace_eq (h : s.inWorkspace ws = s'.inWorkspace ws) :
    SameIn ws s.rows s'.rows := fun r hws => by
  rw [← and_iff_left hws (a := r ∈ s.rows), ← mem_inWorkspace, h, mem_inWorkspace,
    and_iff_left hws]

section Reading

variable (h : SameIn ws s.rows s'.rows)

include h

theorem find?_congr (id : Int) : s.find? ws id = s'.find? ws id := by
  refine Option.ext fun r => ?_
  rw [find?_eq_some_iff, find?_eq_some_iff]
  constructor
  · rintro ⟨hr, hid, hws⟩
    exact ⟨(h r hws).mp hr, hid, hws⟩
  · rintro ⟨hr, hid, hws⟩
    exact ⟨(h r hws).mpr hr, hid, hws⟩

theorem has_congr (id : Int) : s.Has ws id ↔ s'.Has ws id := by
  rw [has_iff_exists_find?, has_iff_exists_find?, find?_congr h]

theorem get_congr (id : Int) : s.get ws id = s'.get ws id := by
  rw [get, get, find?_congr h]

/-- **The listing of a workspace** is the same: its rows stand in a strict order. -/
theorem listing_congr : s.listing ws = s'.listing ws := by
  refine listing_eq_of_pairwise (fun r => ?_) (listing_pairwise s' ws)
  rw [mem_listing]
  exact (and_congr_left fun hws => h r hws).symm

theorem list_congr : s.list ws = s'.list ws := by
  rw [list_eq, list_eq, listing_congr h]

theorem listActive_congr : s.listActive ws = s'.listActive ws := by
  rw [listActive, listActive, list_congr h]

theorem evaluate_congr (t : Transaction) : s.evaluate ws t = s'.evaluate ws t := by
  rw [evaluate, evaluate, listActive_congr h]

theorem topPriority_congr : s.topPriority ws = s'.topPriority ws := by
  rcases topPriority_spec s ws with ⟨htop, hnone⟩ | ⟨r, hr, hws, hp, hle⟩
  · rcases topPriority_spec s' ws with ⟨htop', -⟩ | ⟨r', hr', hws', -, -⟩
    · rw [htop, htop']
    · exact absurd hws' (hnone r' ((h r' hws').mpr hr'))
  · rcases topPriority_spec s' ws with ⟨-, hnone'⟩ | ⟨r', hr', hws', hp', hle'⟩
    · exact absurd hws (hnone' r ((h r hws).mp hr))
    · refine Numeral.key_inj.mp (le_antisymm ?_ ?_)
      · rw [← hp]
        exact hle' r ((h r hws).mp hr) hws
      · rw [← hp']
        exact hle r' ((h r' hws').mpr hr') hws'

theorem newRow_congr (hid : s.nextId = s'.nextId) (new : NewRule) :
    s.newRow ws new = s'.newRow ws new := by
  rw [newRow, newRow, hid, nextPriority, nextPriority, topPriority_congr h]

end Reading

/-! ## Calls on tables with the same rows -/

/-- The results of an operation on two tables: the same answer, and the same rows of a workspace. -/
def Agree {α : Type} (ws : String) (x x' : Except StoreFault α × Store) : Prop :=
  x.1 = x'.1 ∧ SameIn ws x.2.rows x'.2.rows

theorem agree_answering {α : Type} {f : α → Answer} {op : Operation α}
    (h : Agree ws (op s) (op s')) : Agree ws (answering f op s) (answering f op s') :=
  ⟨congrArg (Except.map f) h.1, h.2⟩

section Writing

variable (h : SameIn ws s.rows s'.rows)

include h

theorem agree_reading {α : Type} {f : Store → Except StoreFault α} (hf : f s = f s') :
    Agree ws (reading f s) (reading f s') := ⟨hf, h⟩

theorem sameIn_modify {id : Int} {f : Row → Row} (hid : ∀ r, (f r).id = r.id)
    (hws : ∀ r, (f r).workspace = r.workspace) :
    SameIn ws (s.modify ws id f hid).rows (s'.modify ws id f hid).rows :=
  h.map fun r => by
    split
    · exact hws r
    · rfl

theorem create_agree (new : NewRule) (hid : new.check = .ok () → s.nextId = s'.nextId) :
    Agree ws (create ws new s) (create ws new s') := by
  cases hcheck : new.check with
  | error f =>
    rw [create_of_error hcheck, create_of_error hcheck]
    exact ⟨rfl, h⟩
  | ok _ =>
    have hrow := newRow_congr h (hid hcheck) new
    rw [create_of_ok hcheck, create_of_ok hcheck]
    refine ⟨congrArg Row.read hrow, ?_⟩
    simp only [append, hrow]
    exact h.append _

theorem update_agree (id : Int) (u : RuleUpdate) :
    Agree ws (update ws id u s) (update ws id u s') := by
  cases hget : s.get ws id with
  | error e =>
    have hget' := get_congr h id ▸ hget
    simp only [update, hget, hget']
    exact ⟨rfl, h⟩
  | ok old =>
    have hget' := get_congr h id ▸ hget
    cases hcheck : (u.onto old).check with
    | error f =>
      rw [update_of_error hget hcheck, update_of_error hget' hcheck]
      exact ⟨rfl, h⟩
    | ok _ =>
      rw [update_of_ok hget hcheck, update_of_ok hget' hcheck]
      exact ⟨rfl, sameIn_modify h (overwrite_id _) (overwrite_workspace _)⟩

theorem delete_agree (id : Int) : Agree ws (delete ws id s) (delete ws id s') := by
  have hfind := find?_congr h id
  cases hr : s.find? ws id with
  | none =>
    simp only [delete, hr, ← hfind]
    exact ⟨rfl, h⟩
  | some r =>
    simp only [delete, hr, ← hfind]
    exact ⟨rfl, h.filter _⟩

theorem reprioritize_agree (ps : List (Int × Int)) :
    Agree ws (reprioritize ws ps s) (reprioritize ws ps s') := by
  rcases valid_or_negative_or_not_has ws ps s with
    hvalid | ⟨before, p, after, rfl, hbefore, hp⟩ | ⟨before, p, after, rfl, hpos, hbefore, hp⟩
  · have hvalid' : ∀ p ∈ ps, 0 ≤ p.2 ∧ s'.Has ws p.1 := fun p hp =>
      ⟨(hvalid p hp).1, (has_congr h p.1).mp (hvalid p hp).2⟩
    rw [reprioritize_of_valid hvalid, reprioritize_of_valid hvalid']
    exact ⟨rfl, h.map (assigned_workspace ws ps)⟩
  · rw [reprioritize_of_negative hbefore hp, reprioritize_of_negative hbefore hp]
    exact ⟨rfl, h⟩
  · have hbefore' : ∀ q ∈ before, s'.Has ws q.1 := fun q hq => (has_congr h q.1).mp (hbefore q hq)
    have hp' : ¬ s'.Has ws p.1 := fun hhas => hp ((has_congr h p.1).mpr hhas)
    rw [reprioritize_of_not_has hpos hbefore hp, reprioritize_of_not_has hpos hbefore' hp']
    exact ⟨rfl, h⟩

theorem recordMatch_agree (id : Int) (now : Stamp) :
    Agree ws (recordMatch ws id now s) (recordMatch ws id now s') := by
  have hfind := find?_congr h id
  cases hr : s.find? ws id with
  | none =>
    rw [recordMatch_of_none hr, recordMatch_of_none (hfind ▸ hr)]
    exact ⟨rfl, h⟩
  | some r =>
    rw [recordMatch_of_some hr, recordMatch_of_some (hfind ▸ hr)]
    exact ⟨rfl, sameIn_modify h (used_id now) fun _ => rfl⟩

/-- **Calls on tables with the same rows of a workspace** answer the same there and leave the same
rows. Where a rule is to be stored, the next id is to be the same too. -/
theorem run_agree (c : Call)
    (hid : ∀ new, c = .create new → new.check = .ok () → s.nextId = s'.nextId) :
    Agree ws (c.run ws s) (c.run ws s') := by
  cases c with
  | create new => exact agree_answering (create_agree h new (hid new rfl))
  | get id => exact agree_answering (agree_reading h (get_congr h id))
  | list => exact agree_answering (agree_reading h (list_congr h))
  | listActive => exact agree_answering (agree_reading h (listActive_congr h))
  | evaluate t => exact agree_answering (agree_reading h (evaluate_congr h t))
  | update id u => exact agree_answering (update_agree h id u)
  | setActive id active => exact agree_answering (update_agree h id _)
  | delete id => exact agree_answering (delete_agree h id)
  | reprioritize ps => exact agree_answering (reprioritize_agree h ps)
  | recordMatch id now => exact agree_answering (recordMatch_agree h id now)

end Writing

end Store

/-! ## Calls at different times -/

/-- A row without its points in time. Whether there is a last match stays. -/
def Row.untimed (r : Row) : Row := { r with lastMatch := r.lastMatch.map fun _ => 0 }

/-- A rule without its points in time. Whether there is a last match stays. -/
def StoredRule.untimed (x : StoredRule) : StoredRule :=
  { x with lastMatch := x.lastMatch.map fun _ => 0 }

theorem Row.read_untimed (r : Row) : r.untimed.read = r.read.map StoredRule.untimed := by
  unfold Row.read Row.cells
  simp only [untimed]
  split
  · simp only [Except.bind, Cells.rule]
    split <;> rfl
  · rfl
  · rfl

namespace Store

variable {ws : String} {s s' : Store}

/-- An answer without points in time. -/
def Answer.untimed : Answer → Answer
  | .rule r => .rule r.untimed
  | .rules rs => .rules (rs.map StoredRule.untimed)
  | .evaluations es => .evaluations es
  | .done => .done

/-- The call at another time. -/
def Call.madeAt (now : Stamp) : Call → Call
  | .recordMatch id _ => .recordMatch id now
  | c => c

theorem read_used_untimed (now now' : Stamp) (r : Row) :
    (used now r).read.map StoredRule.untimed = (used now' r).read.map StoredRule.untimed := by
  rw [← Row.read_untimed, ← Row.read_untimed]
  rfl

theorem map_answer_untimed (x : Except StoreFault StoredRule) :
    (x.map Answer.rule).map Answer.untimed = (x.map StoredRule.untimed).map Answer.rule := by
  cases x <;> rfl

/-- **The time of a call** decides nothing but the points in time that it writes and answers. -/
theorem run_madeAt (ws : String) (c : Call) (now : Stamp) (s : Store) :
    ((c.madeAt now).run ws s).1.map Answer.untimed = (c.run ws s).1.map Answer.untimed ∧
      ((c.madeAt now).run ws s).2.rows.map Row.untimed = (c.run ws s).2.rows.map Row.untimed := by
  cases c with
  | recordMatch id now' =>
    simp only [Call.madeAt, Call.run, answering]
    cases h : s.find? ws id with
    | none =>
      rw [recordMatch_of_none h, recordMatch_of_none h]
      exact ⟨rfl, rfl⟩
    | some r =>
      rw [recordMatch_of_some h, recordMatch_of_some h]
      refine ⟨?_, ?_⟩
      · rw [map_answer_untimed, map_answer_untimed, read_used_untimed now now']
      · simp only [modify, mapRows, List.map_map]
        refine List.map_congr_left fun r _ => ?_
        simp only [Function.comp_apply]
        split <;> rfl
  | _ => exact ⟨rfl, rfl⟩

/-! ## Isolation -/

/-- The next id is told by the largest one, while that is not the largest number. -/
theorem nextId_congr (hmax : (s.rows.map (·.id)).max? = (s'.rows.map (·.id)).max?)
    (hids : ∀ r ∈ s.rows, r.id < Text.maxInt64) : s.nextId = s'.nextId := by
  unfold nextId
  rw [← hmax]
  cases hn : (s.rows.map (·.id)).max? with
  | none => rfl
  | some n =>
    obtain ⟨r, hr, rfl⟩ := List.mem_map.mp (List.max?_eq_some_iff.mp hn).1
    simp only [if_pos (hids r hr)]

/-- **Workspaces are apart.** A call leaves the rows of every other workspace. And on two tables with
the same rows of its own workspace and the same largest id it answers the same and leaves the same
rows there, whatever else they hold; at another time it does so up to the points in time. Where it
stores a rule, the largest id is to be in front of the largest number: behind that the database draws
an id that is not in use, and which those are the other workspaces say as well. -/
theorem workspaces_apart (ws : String) (c : Call) (s : Store) :
    (∀ r, r.workspace ≠ ws → (r ∈ (c.run ws s).2.rows ↔ r ∈ s.rows)) ∧
    ∀ s', SameIn ws s.rows s'.rows → (s.rows.map (·.id)).max? = (s'.rows.map (·.id)).max? →
      (∀ new, c = .create new → new.check = .ok () → ∀ r ∈ s.rows, r.id < Text.maxInt64) →
      ((c.run ws s).1 = (c.run ws s').1 ∧ SameIn ws (c.run ws s).2.rows (c.run ws s').2.rows) ∧
      ∀ now, (c.run ws s).1.map Answer.untimed = ((c.madeAt now).run ws s').1.map Answer.untimed ∧
        SameIn ws ((c.run ws s).2.rows.map Row.untimed)
          (((c.madeAt now).run ws s').2.rows.map Row.untimed) := by
  refine ⟨fun r hr => mem_run_foreign c hr, fun s' hsame hmax hids => ?_⟩
  have hagree := run_agree hsame c fun new hc hcheck => nextId_congr hmax (hids new hc hcheck)
  refine ⟨hagree, fun now => ?_⟩
  obtain ⟨hanswer, hrows⟩ := run_madeAt ws c now s'
  rw [hanswer, hrows, hagree.1]
  exact ⟨rfl, hagree.2.map fun _ => rfl⟩

/-- A table with a rule of the workspace `acme` beside the row of a neighbour. -/
def besideNeighbour (neighbour : Row) (h : neighbour.id = 2) : Store where
  rows := [neighbour, ⟨1, "acme", "rent", none, .int 1, true, "contains", "rent", "auto_book", "4",
    .int 0, none⟩]
  keyed := by
    rw [List.map_cons, h]
    decide

/-- The row of a neighbour's rule on taxes. -/
def taxRow (id : Int) : Row :=
  ⟨id, "other", "tax", none, .int 3, true, "contains", "tax", "auto_book", "6", .int 0, none⟩

/-- A table in which the neighbour has a rule on taxes. -/
def soundNeighbour : Store := besideNeighbour (taxRow 2) rfl

/-- A table in which the row of the neighbour cannot be read. -/
def corruptNeighbour : Store := besideNeighbour ⟨2, "other", "", none, .float, true, "fuzzy", "", "", "",
  .float, some 3⟩ rfl

/-- A rule to store beside the other one. -/
def parkingRule : NewRule := ⟨"parking", none, none, true, .contains, "park", .suggestAccount, "5619"⟩

theorem workspaces_apart_corruptNeighbour :
    (SameIn "acme" soundNeighbour.rows corruptNeighbour.rows ∧
      (soundNeighbour.rows.map (·.id)).max? = (corruptNeighbour.rows.map (·.id)).max? ∧
      ∀ r ∈ soundNeighbour.rows, r.id < Text.maxInt64) ∧
    ((Call.create parkingRule).run "acme" soundNeighbour).1 =
      ((Call.create parkingRule).run "acme" corruptNeighbour).1 ∧
    ((Call.recordMatch 1 7).run "acme" soundNeighbour).1.map Answer.untimed =
      ((Call.recordMatch 1 9).run "acme" corruptNeighbour).1.map Answer.untimed := by
  have hsame : SameIn "acme" soundNeighbour.rows corruptNeighbour.rows :=
    sameIn_of_inWorkspace_eq (by decide)
  have hmax : (soundNeighbour.rows.map (·.id)).max? = (corruptNeighbour.rows.map (·.id)).max? := by
    decide
  have hids : ∀ r ∈ soundNeighbour.rows, r.id < Text.maxInt64 := by decide
  obtain ⟨hcreate, -⟩ := (workspaces_apart "acme" (.create parkingRule) soundNeighbour).2
    corruptNeighbour hsame hmax fun _ _ _ => hids
  obtain ⟨-, hlater⟩ := (workspaces_apart "acme" (.recordMatch 1 7) soundNeighbour).2
    corruptNeighbour hsame hmax nofun
  exact ⟨⟨hsame, hmax, hids⟩, hcreate.1, (hlater 9).1⟩

/-- A table in which the neighbour's rule has the largest number as its id. -/
def fullNeighbour : Store where
  rows := [taxRow Text.maxInt64]
  keyed := by decide

/-- That table with one more rule of the neighbour. -/
def fullerNeighbour : Store where
  rows := [taxRow Text.maxInt64, taxRow 1]
  keyed := by decide

/-- **At the largest number** workspaces are not apart: a new rule gets an id that no row has, of
whatever workspace. -/
theorem create_not_agree_fullNeighbour :
    SameIn "acme" fullNeighbour.rows fullerNeighbour.rows ∧
      (fullNeighbour.rows.map (·.id)).max? = (fullerNeighbour.rows.map (·.id)).max? ∧
      ((Call.create parkingRule).run "acme" fullNeighbour).1.map Answer.untimed ≠
        ((Call.create parkingRule).run "acme" fullerNeighbour).1.map Answer.untimed := by
  exact ⟨sameIn_of_inWorkspace_eq (by decide), by decide, by decide +kernel⟩

end Store

end PostingRules
