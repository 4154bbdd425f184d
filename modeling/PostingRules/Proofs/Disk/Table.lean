import PostingRules.Proofs.Disk

/-!
# Tables of rules on a disk

* `tablePlace_filter`, `tablePlace_of_follow`: the place of a table, step by step;
* `tableAt`, `keptAt`: the table that is found under a name, and the place at which it is kept;
* `Opens`, `openTable_opens`: what opening it may do; `tableAt_of_openTable`: it is found again;
* **`Grows.tableAt`**: more directories do not change it; `tableAt_put`: what is put in its place is it;
* `IsFile`: the names that are paths of files;
* `Housed`, `makeHouse`: the directory of a table is there, and is made;
* `Holds`: the table is there; `Lasts`: one that is opened under the name stays there;
* **`holds_of_openTable`**: a table that has been opened is there;
* **`Holds.put`**, **`Holds.openTable`**: what is put in its place is what is opened the next time.
-/

namespace PostingRules.Disk

variable {d d' : Disk} {p q : Place} {ns ms : List String} {path : String} {s : Store}

/-! ## Places -/

/-- A place of a table may lie below this one: a directory stands there, or nothing. -/
def Passable (d : Disk) (p : Place) : Prop := d.entry? p = none ∨ d.entry? p = some .directory

instance (d : Disk) (p : Place) : Decidable (d.Passable p) :=
  inferInstanceAs (Decidable (d.entry? p = none ∨ d.entry? p = some .directory))

theorem tablePlace_cons (d : Disk) (p : Place) (n : String) (ns : List String) :
    d.tablePlace p (n :: ns) =
      if n.isEmpty || n = "." then d.tablePlace p ns
      else if n = ".." then d.tablePlace p.dropLast ns
      else if d.Passable p then d.tablePlace (p ++ [n]) ns
      else none := by
  rw [tablePlace]
  split
  · rfl
  · split
    · rfl
    · cases hp : d.entry? p with
      | none => rw [if_pos (show d.Passable p from Or.inl hp)]
      | some e =>
        cases e with
        | directory => rw [if_pos (show d.Passable p from Or.inr hp)]
        | text content => rw [if_neg (show ¬ d.Passable p by simp [Passable, hp])]
        | table s => rw [if_neg (show ¬ d.Passable p by simp [Passable, hp])]

theorem not_isStep_iff {n : String} : ¬ Path.IsStep n = true ↔ (n.isEmpty || n = ".") = true := by
  cases h : n.isEmpty <;> simp [Path.IsStep, h]

theorem tablePlace_filter (d : Disk) (p : Place) (ns : List String) :
    d.tablePlace p ns = d.tablePlace p (ns.filter Path.IsStep) := by
  induction ns generalizing p with
  | nil => rfl
  | cons n ns ih =>
    by_cases hn : Path.IsStep n = true
    · rw [List.filter_cons_of_pos hn, tablePlace_cons, tablePlace_cons]
      simp only [ih]
    · rw [List.filter_cons_of_neg hn, tablePlace_cons, if_pos (not_isStep_iff.mp hn), ih]

theorem follow_filter (h : d.follow p ns = .ok q) :
    d.follow p (ns.filter Path.IsStep) = .ok q := by
  induction ns generalizing p with
  | nil => exact h
  | cons n ns ih =>
    have hp := entry?_of_follow_cons h
    rw [follow_cons_of_directory hp] at h
    by_cases hn : Path.IsStep n = true
    · rw [List.filter_cons_of_pos hn, follow_cons_of_directory hp]
      split_ifs at h ⊢ <;> exact ih h
    · rw [if_pos (not_isStep_iff.mp hn)] at h
      rw [List.filter_cons_of_neg hn]
      exact ih h

theorem tablePlace_of_follow (h : d.follow p ms = .ok q) (ns : List String) :
    d.tablePlace p (ms ++ ns) = d.tablePlace q ns := by
  induction ms generalizing p with
  | nil =>
    cases h
    rfl
  | cons m ms ih =>
    have hp := entry?_of_follow_cons h
    rw [follow_cons_of_directory hp] at h
    have hpass : d.Passable p := Or.inr hp
    rw [List.cons_append, tablePlace_cons, if_pos hpass]
    split_ifs at h ⊢ <;> exact ih h

theorem tablePlace_mono (hd : ∀ q, d.Passable q → d'.Passable q)
    (h : d.tablePlace p ns = some q) : d'.tablePlace p ns = some q := by
  induction ns generalizing p with
  | nil => exact h
  | cons n ns ih =>
    rw [tablePlace_cons] at h ⊢
    by_cases hp : d.Passable p
    · rw [if_pos hp] at h
      rw [if_pos (hd p hp)]
      split_ifs at h ⊢ <;> exact ih h
    · rw [if_neg hp] at h
      split_ifs at h ⊢ <;> exact ih h

theorem Grows.passable_iff (h : Grows d d') : d'.Passable p ↔ d.Passable p := by
  unfold Passable
  rcases h.entry p with e | ⟨hnone, hdir⟩
  · rw [e]
  · simp [hnone, hdir]

theorem Grows.tablePlace (h : Grows d d') (p : Place) (ns : List String) :
    d'.tablePlace p ns = d.tablePlace p ns := by
  ext q
  exact ⟨tablePlace_mono fun _ => h.passable_iff.mp, tablePlace_mono fun _ => h.passable_iff.mpr⟩

theorem tablePlace_unique (h : d.tablePlace p ns = some q) {q' : Place}
    (h' : d'.tablePlace p ns = some q') : q' = q := by
  induction ns generalizing p with
  | nil => exact Option.some.inj (h'.symm.trans h)
  | cons n ns ih =>
    rw [tablePlace_cons] at h h'
    split_ifs at h h' <;> exact ih h h'

/-! ## Tables -/

/-- The table that is found under a name. It is empty where none can be opened. -/
def tableAt (d : Disk) (path : String) : Store :=
  ((d.openTable path).1.toOption.map (·.2)).getD {}

/-- The rules of what stands at a place. -/
def rulesIn : Option Entry → Store
  | some (.table s) => s
  | _ => {}

/-- The place at which a table is kept that is opened under a name, if it is kept at all. -/
def keptAt (d : Disk) (name : String) : Option Place :=
  match TableName.read name with
  | .file path access =>
    if access = .readOnly then none else d.tablePlace (d.start path) (Path.steps path)
  | _ => none

/-- A table may be made at the place: nothing stands there, or an empty file. -/
def IsVacant (d : Disk) (p : Place) : Prop := d.entry? p = none ∨ d.entry? p = some (.text "")

theorem IsVacant.ne_directory (h : d.IsVacant p) : d.entry? p ≠ some .directory := by
  rcases h with h | h <;> simp [h]

theorem IsVacant.rulesIn (h : d.IsVacant p) : rulesIn (d.entry? p) = {} := by
  rcases h with h | h <;> rw [h] <;> rfl

/-- **What opening the table under a name may do**: it gives an empty one in memory, or it finds no place
for one, or it gives the one at its place, or it makes an empty one there, or it refuses what is there. -/
inductive Opens (d : Disk) (name : String) :
    Except TableFault (Option Place × Store) × Disk → Prop
  | memory (hm : TableName.read name = .memory) : Opens d name (.ok (none, {}), d)
  | unplaced (hp : d.keptAt name = none) {f : TableFault} : Opens d name (.error f, d)
  | found {p : Place} {s : Store} (hp : d.keptAt name = some p)
    (he : d.entry? p = some (.table s)) : Opens d name (.ok (some p, s), d)
  | made {p : Place} (hp : d.keptAt name = some p) (he : d.IsVacant p) :
    Opens d name (.ok (some p, {}), d.put p (.table {}))
  | refused {p : Place} (hp : d.keptAt name = some p) (he : rulesIn (d.entry? p) = {})
    {f : TableFault} : Opens d name (.error f, d)

theorem openTable_opens (d : Disk) (name : String) : Opens d name (d.openTable name) := by
  unfold openTable
  split
  · next hm => exact .memory hm
  · next f hm => exact .unplaced (by rw [keptAt, hm])
  · next path access hm =>
    unfold openFile
    by_cases hread : access = .readOnly
    · -- a table that may only be read is refused, whatever there is
      have hnone : d.keptAt name = none := by rw [keptAt, hm]; exact if_pos hread
      simp only [hread, reduceCtorEq, if_true, false_and, if_false]
      split
      · exact .unplaced hnone
      · split
        · exact .unplaced hnone
        · exact .unplaced hnone
        · split <;> exact .unplaced hnone
        · exact .unplaced hnone
    · have hkept : d.keptAt name = d.tablePlace (d.start path) (Path.steps path) := by
        rw [keptAt, hm]
        exact if_neg hread
      simp only [hread, if_false]
      rw [← hkept]
      split
      · next hp => exact .unplaced hp
      · next p hp =>
        split
        · next he => exact .refused hp (by rw [he]; rfl)
        · next s he => exact .found hp he
        · next content he =>
          split
          · exact .refused hp (by rw [he]; rfl)
          · next hempty =>
            rw [Bool.not_eq_true, Bool.not_eq_false', String.isEmpty_iff] at hempty
            exact .made hp (Or.inr (hempty ▸ he))
        · next he =>
          split
          · exact .made hp (Or.inl he)
          · exact .refused hp (by rw [he]; rfl)

theorem keptAt_of_memory (h : TableName.read path = .memory) (d : Disk) : d.keptAt path = none := by
  rw [keptAt, h]

/-- **The table under a name** is what stands at its place. -/
theorem tableAt_eq (d : Disk) (path : String) :
    d.tableAt path = (d.keptAt path).elim {} fun p => rulesIn (d.entry? p) := by
  have h := openTable_opens d path
  rw [tableAt]
  generalize d.openTable path = r at h
  cases h with
  | memory hm => rw [keptAt_of_memory hm]; rfl
  | unplaced hp => rw [hp]; rfl
  | found hp he => rw [hp, Option.elim_some, he]; rfl
  | made hp he => rw [hp, Option.elim_some, he.rulesIn]; rfl
  | refused hp he => rw [hp, Option.elim_some, he]; rfl

theorem keptAt_unique (hstart : ∀ path, d'.start path = d.start path)
    (h : d.keptAt path = some p) (h' : d'.keptAt path = some q) : q = p := by
  unfold keptAt at h h'
  cases hm : TableName.read path with
  | file file access =>
    simp only [hm, hstart] at h h'
    split_ifs at h h'
    exact tablePlace_unique h h'
  | _ =>
    simp only [hm] at h
    cases h

theorem keptAt_congr (hstart : ∀ path, d'.start path = d.start path)
    (hplace : ∀ p ns, d'.tablePlace p ns = d.tablePlace p ns) (path : String) :
    d'.keptAt path = d.keptAt path := by
  unfold keptAt
  split
  · rw [hstart, hplace]
  · rfl

/-- A place of a table stays where nothing comes to stand in the way. -/
theorem keptAt_mono (hstart : ∀ path, d'.start path = d.start path)
    (hd : ∀ q, d.Passable q → d'.Passable q) (h : d.keptAt path = some p) :
    d'.keptAt path = some p := by
  unfold keptAt at h ⊢
  split at h
  · split_ifs at h
    rw [if_neg ‹_›, hstart]
    exact tablePlace_mono hd h
  · cases h

/-- **More directories** leave the tables as they were. -/
theorem Grows.tableAt (h : Grows d d') (path : String) : d'.tableAt path = d.tableAt path := by
  have hrules : ∀ p, rulesIn (d'.entry? p) = rulesIn (d.entry? p) := fun p => by
    rcases h.entry p with e | ⟨hnone, hdir⟩
    · rw [e]
    · rw [hnone, hdir]
      rfl
  rw [tableAt_eq, tableAt_eq, keptAt_congr h.extends.start h.tablePlace]
  simp only [hrules]

/-- **A table in the place of another one** leaves every place of a table as it was. -/
theorem keptAt_put (he : d.entry? p = some (.table s)) (s' : Store) (path : String) :
    (d.put p (.table s')).keptAt path = d.keptAt path := by
  have hp : d.entry? p ≠ some .directory := by rw [he]; exact nofun
  have hpass : ∀ q, (d.put p (.table s')).Passable q ↔ d.Passable q := fun q => by
    unfold Passable
    rw [entry?_put (ne_nil_of_ne_directory hp)]
    split
    · next hq => simp [hq, he]
    · rfl
  refine keptAt_congr (Extends.put hp _).start (fun q ns => ?_) path
  ext r
  exact ⟨tablePlace_mono fun q => (hpass q).mp, tablePlace_mono fun q => (hpass q).mpr⟩

/-- What is put in the place of a table is found there. -/
theorem tableAt_put (hp : d.keptAt path = some p) (he : d.entry? p = some (.table s))
    (s' : Store) : (d.put p (.table s')).tableAt path = s' := by
  have hdir : d.entry? p ≠ some .directory := by rw [he]; exact nofun
  rw [tableAt_eq, keptAt_put he, hp, Option.elim_some,
    entry?_put_self (ne_nil_of_ne_directory hdir)]
  rfl

/-- **The table that has been opened** is found again under its name. -/
theorem tableAt_of_openTable {o : Option Place} (h : d.openTable path = (.ok (o, s), d')) :
    d'.tableAt path = s := by
  have hopens := openTable_opens d path
  rw [h] at hopens
  rw [tableAt_eq]
  cases hopens with
  | memory hm => rw [keptAt_of_memory hm]; rfl
  | found hp he => rw [hp, Option.elim_some, he]; rfl
  | @made p hp he =>
    have hdir := he.ne_directory
    -- the new table is empty, so it does not matter whether its place can still be reached
    cases hp' : (d.put p (.table {})).keptAt path with
    | none => rfl
    | some q =>
      rw [keptAt_unique (Extends.put hdir _).start hp hp', Option.elim_some,
        entry?_put_self (ne_nil_of_ne_directory hdir)]
      rfl

/-! ## Tables that are there -/

/-- The directory of a table is there, or the path does not ask for one. -/
def Housed (d : Disk) (path : String) : Prop :=
  ∀ dir, Path.parent? path = some dir → dir = "" ∨ d.isDirectory dir = true

/-- The name is the path of a file: it stands for no table in memory, and is no URI. -/
def IsFile (name : String) : Prop := TableName.read name = .file name .created

instance (name : String) : Decidable (IsFile name) :=
  inferInstanceAs (Decidable (TableName.read name = .file name .created))

theorem isFile_of_not_scheme (h : ¬ Uri.scheme <+: path.toList)
    (hvolatile : TableName.isVolatile path = false) : IsFile path := by
  rw [← List.isPrefixOf_iff_prefix] at h
  rw [IsFile, TableName.read, if_neg h, hvolatile]
  rfl

theorem keptAt_of_file {file : String} {access : Access}
    (h : TableName.read path = .file file access) (hread : access ≠ .readOnly) (d : Disk) :
    d.keptAt path = d.tablePlace (d.start file) (Path.steps file) := by
  rw [Disk.keptAt, h]
  exact if_neg hread

theorem IsFile.keptAt (h : IsFile path) (d : Disk) :
    d.keptAt path = d.tablePlace (d.start path) (Path.steps path) :=
  keptAt_of_file h nofun d

/-- **A table of rules** stands at the place of a name, and its directory is there. -/
structure Holds (d : Disk) (path : String) (p : Place) (s : Store) : Prop where
  housed : d.Housed path
  kept : d.keptAt path = some p
  entry : d.entry? p = some (.table s)

theorem Extends.housed (hd : Extends d d') (h : d.Housed path) : d'.Housed path :=
  fun dir hdir => (h dir hdir).imp_right hd.isDirectory

/-- **A table under the name lasts**: the name stands for a file that may be changed, and is the path of
the file, or the directory of the file is there. -/
def Lasts (d : Disk) (name : String) : Prop :=
  ∃ file access, TableName.read name = .file file access ∧ access ≠ .readOnly ∧
    (file = name ∨ d.Housed file)

theorem IsFile.lasts (h : IsFile path) (d : Disk) : d.Lasts path :=
  ⟨path, .created, h, nofun, Or.inl rfl⟩

theorem Extends.lasts (hd : Extends d d') (h : d.Lasts path) : d'.Lasts path := by
  obtain ⟨file, access, hm, hread, hfile⟩ := h
  exact ⟨file, access, hm, hread, hfile.imp_right hd.housed⟩

theorem way_eq_nil_of_parent? (h : Path.parent? path = none) : Path.way path = [] := by
  unfold Path.parent? at h
  split at h
  · next hnames =>
    rw [List.isEmpty_iff] at hnames
    rcases Path.names_eq path with hp | hp
    · rw [← hp, hnames]
    · rw [hnames] at hp
      cases hp
  · cases h

/-- Make the directory of a table. -/
def makeHouse (d : Disk) (path : String) : Except DiskFault Unit × Disk :=
  match Path.parent? path with
  | some dir => d.makeAll dir
  | none => (.ok (), d)

theorem makeHouse_grows (d : Disk) (path : String) : Grows d (d.makeHouse path).2 := by
  unfold makeHouse
  split
  · exact makeAll_grows d _
  · exact .refl d

theorem housed_of_makeHouse (h : d.makeHouse path = (.ok (), d')) : d'.Housed path := by
  intro dir hdir
  simp only [makeHouse, hdir] at h
  by_cases hne : dir = ""
  · exact Or.inl hne
  · exact Or.inr (isDirectory_of_makeAll hne h)

theorem Housed.makeHouse (h : d.Housed path) : d.makeHouse path = (.ok (), d) := by
  unfold Disk.makeHouse
  split
  · next dir hdir =>
    rcases h dir hdir with rfl | hdir
    · rfl
    · exact makeAll_of_isDirectory hdir
  · rfl

/-- The way to a housed table can be followed but for its last step. -/
theorem Housed.exists_follow (h : d.Housed path) :
    ∃ q, d.follow (d.start path) (Path.way path).dropLast = .ok q := by
  cases hdir : Path.parent? path with
  | none => exact ⟨d.start path, by rw [way_eq_nil_of_parent? hdir]; rfl⟩
  | some dir =>
    obtain ⟨hway, habs⟩ := Path.way_parent? hdir
    have hstart : d.start dir = d.start path := by rw [start, start, habs]
    rw [← hway, ← hstart]
    rcases h dir hdir with rfl | hdir
    · exact ⟨_, rfl⟩
    · obtain ⟨q, hq, -⟩ := isDirectory_iff.mp hdir
      unfold resolve at hq
      split at hq
      · cases hq
      · exact ⟨q, follow_filter hq⟩

theorem tablePlace_last_put {n : String} (hp : d.entry? p ≠ some .directory)
    (hplace : d.tablePlace q [n] = some p) (e : Entry) :
    (d.put p e).tablePlace q [n] = some p := by
  rw [tablePlace_cons] at hplace ⊢
  by_cases hpass : d.Passable q
  · rw [if_pos hpass] at hplace
    split_ifs at hplace ⊢ with hstay hup hput
    · exact hplace
    · exact hplace
    · exact hplace
    · -- the step leads on, so what is put there stands behind `q`
      cases hplace
      refine absurd ?_ hput
      have hne : q ≠ q ++ [n] := by simp
      unfold Passable at hpass ⊢
      rwa [entry?_put (ne_nil_of_ne_directory hp), if_neg hne]
  · rw [if_neg hpass] at hplace
    split_ifs at hplace ⊢ <;> exact hplace

/-- **The place of a housed table** is the same where something else comes to stand at it. -/
theorem Housed.tablePlace_put (h : d.Housed path) (hp : d.entry? p ≠ some .directory)
    (hplace : d.tablePlace (d.start path) (Path.steps path) = some p) (e : Entry) :
    (d.put p e).tablePlace (d.start path) (Path.steps path) = some p := by
  obtain ⟨q, hq⟩ := h.exists_follow
  rw [tablePlace_filter, ← Path.way] at hplace ⊢
  rcases List.eq_nil_or_concat' (Path.way path) with hnil | ⟨front, n, hway⟩
  · rw [hnil] at hplace ⊢
    exact hplace
  · -- what is in front of the last step can be followed, and directories stay where they are
    rw [hway] at hplace ⊢
    rw [hway, List.dropLast_concat] at hq
    rw [tablePlace_of_follow hq] at hplace
    rw [tablePlace_of_follow ((Extends.put hp e).follow hq)]
    exact tablePlace_last_put hp hplace e

theorem Holds.put (h : d.Holds path p s) (s' : Store) :
    (d.put p (.table s')).Holds path p s' := by
  have hp : d.entry? p ≠ some .directory := by rw [h.entry]; exact nofun
  exact ⟨(Extends.put hp _).housed h.housed, by rw [keptAt_put h.entry, h.kept],
    entry?_put_self (ne_nil_of_ne_directory hp)⟩

/-- **A table that is there is opened** and leaves the disk as it was. -/
theorem Holds.openTable (h : d.Holds path p s) : d.openTable path = (.ok (some p, s), d) := by
  have hkept := h.kept
  unfold Disk.keptAt at hkept
  split at hkept
  · next file access hm =>
    split_ifs at hkept with hread
    rw [Disk.openTable, hm]
    simp only [openFile, hkept, h.entry, hread, if_false]
  · cases hkept

theorem Holds.tableAt (h : d.Holds path p s) : d.tableAt path = s := by
  rw [Disk.tableAt, h.openTable]
  rfl

theorem openTable_of_error {f : TableFault} (h : d.openTable path = (.error f, d')) : d' = d := by
  have hopens := openTable_opens d path
  rw [h] at hopens
  cases hopens <;> rfl

/-- **A table that has been opened** is there, if it lasts. -/
theorem holds_of_openTable (hlasts : d.Lasts path) (hhoused : d.Housed path)
    {o : Option Place} (h : d.openTable path = (.ok (o, s), d')) :
    ∃ p, o = some p ∧ d'.Holds path p s := by
  obtain ⟨file, access, hmode, hread, hfile⟩ := hlasts
  have hopens := openTable_opens d path
  rw [h] at hopens
  cases hopens with
  | memory hm =>
    cases hm.symm.trans hmode
  | @found p _ hp hentry => exact ⟨p, rfl, hhoused, hp, hentry⟩
  | @made p hp he =>
    have hdir := he.ne_directory
    have hext : Extends d (d.put p (.table {})) := Extends.put hdir _
    have hhouse : d.Housed file := by
      rcases hfile with rfl | hhouse
      · exact hhoused
      · exact hhouse
    refine ⟨p, rfl, hext.housed hhoused, ?_, entry?_put_self (ne_nil_of_ne_directory hdir)⟩
    rw [keptAt_of_file hmode hread, hext.start]
    exact hhouse.tablePlace_put hdir (keptAt_of_file hmode hread d ▸ hp) _

end PostingRules.Disk
