import PostingRules.Command.Run
import PostingRules.Proofs.Command.SetUp
import PostingRules.Proofs.Disk.Canonical

/-!
# Setting up once more

A second run finds what the first has made: the settings, the data directory and the table. It makes
nothing new, but it may write the data directory in another way, since a directory that is there is
written as the path of its place.

* `perform_setUp_eq_ok_iff`: what a run that succeeds does, step by step;
* `IsSetUp`: the disk is set up for some settings; `IsSetUp.perform`: setting it up again for them;
* `exists_isSetUp_of_perform`: the disk is set up behind a run;
* `IsSettled`, `dataDirectory_again`: a data directory that is stored the same before and behind;
* `ChosenAgain`, `choose_again`: the settings of the second run; `ChosenAgain.settled_iff`,
  `ChosenAgain.saying_iff`: when they are those of the first, and when the same is said;
* **`run_init_again`**: what a second run says and leaves.
-/

namespace PostingRules

open Disk Run

variable {d d' : Disk} {f p q : Place} {t : Store} {path : String} {dir ws : Option String}
  {s : Settings} {σ σ' : Session}

/-! ## Runs that succeed -/

/-- What is said at the end. -/
def greeting (s : Settings) : String :=
  "Initialized kontoregel at " ++ s.dataDir ++ " (workspace '" ++ s.workspace ++ "')"

/-- **What a successful set-up does.** -/
theorem perform_setUp_eq_ok_iff : perform (setUp dir ws) σ = (.ok (), σ') ↔
    ∃ s d₁ d₂ d₃ d₄ o t, s = (Settings.load σ.disk).choose σ.disk dir ws ∧
      σ.disk.makeAll (Settings.directory σ.disk.homePath) = (.ok (), d₁) ∧
      d₁.writeText (Settings.file σ.disk.homePath) s.text = .ok d₂ ∧
      d₂.makeAll s.dataDir = (.ok (), d₃) ∧
      d₃.openTable s.databasePath = (.ok (o, t), d₄) ∧
      σ' = told [greeting s] { σ with disk := d₄, place := o, rules := t } := by
  rw [setUp, perform_bind_of_ok (perform_get σ)]
  constructor
  · intro h
    obtain ⟨_, σ₁, hsave, h⟩ := perform_bind_eq_ok_iff.mp h
    obtain ⟨_, σ₂, hmake, h⟩ := perform_bind_eq_ok_iff.mp h
    obtain ⟨_, σ₃, hopen, h⟩ := perform_bind_eq_ok_iff.mp h
    obtain ⟨d₁, d₂, hdirectory, hfile, rfl⟩ := (Settings.perform_save_eq_ok_iff _ _ _).mp hsave
    obtain ⟨d₃, hmade, rfl⟩ := perform_makeDirectory_eq_ok_iff.mp hmake
    obtain ⟨o, t, d₄, hopened, rfl⟩ := perform_openTable_eq_ok_iff.mp hopen
    rw [perform_say] at h
    exact ⟨_, d₁, d₂, d₃, d₄, o, t, rfl, hdirectory, hfile, hmade, hopened, (congrArg Prod.snd h).symm⟩
  · rintro ⟨_, d₁, d₂, d₃, d₄, o, t, rfl, hdirectory, hfile, hmake, hopen, rfl⟩
    rw [perform_bind_of_ok ((Settings.perform_save_eq_ok_iff _ _ _).mpr ⟨d₁, d₂, hdirectory, hfile, rfl⟩),
      perform_bind_of_ok (perform_makeDirectory_eq_ok_iff.mpr ⟨d₃, hmake, rfl⟩),
      perform_bind_of_ok (perform_openTable_eq_ok_iff.mpr ⟨o, t, d₄, hopen, rfl⟩)]
    exact perform_say _ _

/-! ## Disks that are set up -/

theorem isName_table : Path.IsName "kontoregel.db" := by decide

/-- **The path of the table** is that of a file, unless the data directory begins like a URI. -/
theorem isFile_databasePath (h : ¬ Uri.scheme <+: s.dataDir.toList) : IsFile s.databasePath := by
  have hlast : (Path.way s.databasePath).getLast? = some "kontoregel.db" := by
    rw [Settings.databasePath, Path.way_joinPath isName_table, List.getLast?_concat]
  refine isFile_of_not_scheme (fun hscheme => h ?_) ?_
  · exact Path.prefix_of_prefix_joinPath (by decide) (by decide) hscheme
  · by_contra hvolatile
    rw [Bool.not_eq_false, TableName.isVolatile, Bool.or_eq_true, decide_eq_true_eq,
      String.isEmpty_iff] at hvolatile
    rcases hvolatile with hpath | hpath <;> rw [hpath] at hlast <;> revert hlast <;> decide

/-- The path of a place begins with a slash, and no URI does. -/
theorem not_scheme_pathOf (p : Place) : ¬ Uri.scheme <+: (pathOf p).toList := by
  rw [pathOf, Path.ofNames, String.toList_append]
  exact fun h => absurd (List.cons_prefix_cons.mp h).1 (by decide)

theorem text_ne_empty (s : Settings) : s.text ≠ "" := by
  intro h
  have hlist := congrArg String.toList h
  rw [Settings.text, String.toList_ofList, Settings.textList_eq] at hlist
  cases hlist

theorem text_injective {s s' : Settings} (h : s.text = s'.text) : s = s' := by
  rw [← Settings.read_text "" s, h, Settings.read_text]

/-- **The disk is set up** for the settings: there are a file for them at `f`, their data directory, and
their table at `p`. -/
structure IsSetUp (d : Disk) (s : Settings) (f p : Place) (t : Store) : Prop where
  file : d.resolve (Settings.file d.homePath) = .ok f
  text : ∃ content, d.entry? f = some (.text content)
  directory : s.dataDir = "" ∨ d.isDirectory s.dataDir = true
  table : d.Holds s.databasePath p t

theorem IsSetUp.ne_directory (h : IsSetUp d s f p t) : d.entry? f ≠ some .directory := by
  obtain ⟨content, hf⟩ := h.text
  rw [hf]
  exact nofun

theorem IsSetUp.entry?_put (h : IsSetUp d s f p t) (e : Entry) :
    Disk.entry? (d.put f e) q = if q = f then some e else d.entry? q :=
  Disk.entry?_put (ne_nil_of_ne_directory h.ne_directory)

/-- It stays so when other settings are written to the file. -/
theorem IsSetUp.put (h : IsSetUp d s f p t) (content : String) :
    IsSetUp (d.put f (.text content)) s f p t := by
  have hretains : Retains d (d.put f (.text content)) := .put h.ne_directory _
  obtain ⟨old, hold⟩ := h.text
  have hpass : ∀ q, d.Passable q → (d.put f (.text content)).Passable q := by
    intro q hq
    unfold Passable at hq ⊢
    rw [h.entry?_put]
    split
    · next hf =>
      rw [hf, hold] at hq
      rcases hq with hq | hq <;> cases hq
    · exact hq
  refine ⟨?_, ⟨content, ?_⟩, h.directory.imp_right hretains.isDirectory,
    hretains.housed h.table.housed, keptAt_mono hretains.start hpass h.table.kept, ?_⟩
  · rw [homePath, put_home]
    exact hretains.resolve h.file
  · rw [h.entry?_put, if_pos rfl]
  · rw [h.entry?_put, if_neg, h.table.entry]
    rintro rfl
    rw [h.table.entry] at hold
    cases hold

/-- **Writing settings** leaves the disk as it was just when the file holds them. -/
theorem IsSetUp.put_eq_iff (h : IsSetUp d s f p t) (hf : d.entry? f = some (.text s.text))
    {s' : Settings} :
    (∀ q, Disk.entry? (d.put f (.text s'.text)) q = d.entry? q) ↔ s' = s := by
  simp only [h.entry?_put]
  constructor
  · intro hentries
    have htext := hentries f
    rw [if_pos rfl, hf] at htext
    exact text_injective (Entry.text.inj (Option.some.inj htext))
  · rintro rfl q
    split
    · next hq => rw [hq, hf]
    · rfl

/-- **Setting up a disk that is set up** writes the settings, and no more. -/
theorem IsSetUp.perform (h : IsSetUp σ.disk s f p t)
    (hs : (Settings.load σ.disk).choose σ.disk dir ws = s) :
    perform (setUp dir ws) σ = (.ok (), told [greeting s]
      { σ with disk := σ.disk.put f (.text s.text), place := some p, rules := t }) := by
  have hput := h.put s.text
  have hdirectory := Settings.exists_resolve_file_iff.mp ⟨f, h.file⟩
  refine perform_setUp_eq_ok_iff.mpr ⟨s, _, _, _, _, _, _, hs.symm, makeAll_of_isDirectory hdirectory,
    writeText_eq_ok_iff.mpr ⟨f, h.file, h.ne_directory, rfl⟩, ?_, hput.table.openTable, rfl⟩
  rcases hput.directory with hempty | hdir
  · rw [hempty]
    rfl
  · exact makeAll_of_isDirectory hdir

/-! ## The first run -/

/-- Opening a table leaves a text as it was that is not empty. -/
theorem entry?_of_openTable {r : Option Place × Store} (h : d.openTable path = (.ok r, d'))
    {content : String} (hf : d.entry? f = some (.text content)) (hne : content ≠ "") :
    Retains d d' ∧ d'.entry? f = some (.text content) := by
  have hopens := openTable_opens d path
  rw [h] at hopens
  cases hopens with
  | memory _ => exact ⟨(Grows.refl _).retains, hf⟩
  | found _ _ => exact ⟨(Grows.refl _).retains, hf⟩
  | made _ he =>
    refine ⟨.put he.ne_directory _, ?_⟩
    rw [Disk.entry?_put (ne_nil_of_ne_directory he.ne_directory), if_neg, hf]
    rintro rfl
    rw [IsVacant, hf] at he
    simp [hne] at he

theorem load_of_entry (hfile : d.resolve (Settings.file d.homePath) = .ok f)
    (hf : d.entry? f = some (.text s.text)) : Settings.load d = s := by
  have hread : d.readText (Settings.file d.homePath) = .ok s.text := by
    simp [readText, entryAt, hfile, hf, bind, Except.bind]
  rw [Settings.load, hread]
  exact Settings.read_text _ s

theorem IsSetUp.load_put (h : IsSetUp d s f p t) (s' : Settings) :
    Settings.load (d.put f (.text s'.text)) = s' :=
  load_of_entry (h.put s'.text).file (by rw [h.entry?_put, if_pos rfl])

/-- **Behind a set-up** the settings that have been chosen are those that are loaded, and the disk is set
up for them. -/
theorem exists_isSetUp_of_perform (h : perform (setUp dir ws) σ = (.ok (), σ'))
    (hs : (Settings.load σ.disk).choose σ.disk dir ws = s) :
    Settings.load σ'.disk = s ∧ (¬ Uri.scheme <+: s.dataDir.toList →
    ∃ f p t, IsSetUp σ'.disk s f p t ∧ σ'.disk.entry? f = some (.text s.text) ∧
      Retains σ.disk σ'.disk ∧ σ'.said = σ.said ++ saying [greeting s] ∧ σ'.warned = σ.warned) := by
  obtain ⟨_, d₁, d₂, d₃, d₄, o, t, rfl, hdirectory, hwrite, hmake, hopen, rfl⟩ :=
    perform_setUp_eq_ok_iff.mp h
  rw [hs] at hwrite hmake hopen ⊢
  have hgrows₁ := makeAll_grows σ.disk (Settings.directory σ.disk.homePath)
  have hgrows₃ := makeAll_grows d₂ s.dataDir
  rw [hdirectory] at hgrows₁
  rw [hmake] at hgrows₃
  obtain ⟨f, hfile, hf, rfl⟩ := writeText_eq_ok_iff.mp hwrite
  -- directories are made where nothing stands, so what has been written stays
  have hentry₃ : d₃.entry? f = some (.text s.text) := by
    have hput : Disk.entry? (d₁.put f (.text s.text)) f = some (.text s.text) :=
      entry?_put_self (ne_nil_of_ne_directory hf)
    rcases hgrows₃.entry f with e | ⟨hnone, -⟩
    · rw [e, hput]
    · rw [hput] at hnone
      cases hnone
  obtain ⟨hretains₄, hentry₄⟩ := entry?_of_openTable hopen hentry₃ (text_ne_empty s)
  have hretains : Retains (d₁.put f (.text s.text)) d₄ := hgrows₃.retains.trans hretains₄
  have hall : Retains d₁ d₄ := (Retains.put hf _).trans hretains
  have hdir : s.dataDir = "" ∨ d₃.isDirectory s.dataDir = true := by
    by_cases hempty : s.dataDir = ""
    · exact Or.inl hempty
    · exact Or.inr (isDirectory_of_makeAll hempty hmake)
  have hhome : d₄.homePath = σ.disk.homePath := by
    rw [homePath, hall.home, hgrows₁.home, homePath]
  have hresolve : d₄.resolve (Settings.file d₄.homePath) = .ok f := by
    rw [hhome]
    exact hall.resolve hfile
  refine ⟨load_of_entry hresolve hentry₄, fun hplain => ?_⟩
  obtain ⟨p, -, hholds⟩ := holds_of_openTable ((isFile_databasePath hplain).lasts d₃)
    (housed_joinPath isName_table hdir) hopen
  exact ⟨f, p, t, ⟨hresolve, ⟨_, hentry₄⟩, hdir.imp_right hretains₄.isDirectory, hholds⟩, hentry₄,
    hgrows₁.retains.trans hall, rfl, rfl⟩

/-! ## The data directory of the second run -/

/-- **The data directory is stored as it stays**: it is the same on a disk where it is there. -/
def IsSettled (d : Disk) (path : String) : Prop :=
  path.toList.head? = some '~' ∨ path = "" ∨ d.isThere path = true ∨ Path.IsCanonical path

theorem dataDirectory_of_tilde (h : path.toList.head? = some '~') (hhome : d'.home = d.home) :
    dataDirectory d' path = dataDirectory d path := by
  obtain ⟨rest, hpath⟩ := List.head?_eq_some_iff.mp h
  rw [dataDirectory, dataDirectory, hpath]
  simp only [homePath, hhome]

theorem dataDirectory_of_ne (h : path.toList.head? ≠ some '~') (d : Disk) :
    dataDirectory d path = (d.canonical? path).getD path := by
  unfold dataDirectory
  split
  · next hpath =>
    rw [hpath] at h
    exact absurd rfl h
  · rfl

theorem canonical?_empty (d : Disk) : d.canonical? "" = none := by
  rw [Option.eq_none_iff_forall_ne_some]
  intro c hc
  obtain ⟨p, hp, -⟩ := canonical?_eq_some_iff.mp hc
  exact (resolve_eq_ok_iff.mp hp).1 rfl

/-- **The data directory of the second run** is that of the first if it is settled, and else it is
written as the path of its place then. -/
theorem dataDirectory_again (hhere : d.Rooted d.here) (hretains : Retains d d')
    (hdir : dataDirectory d path = "" ∨ d'.isDirectory (dataDirectory d path) = true) :
    IsSettled d path ∧ dataDirectory d' path = dataDirectory d path ∨
    ¬ IsSettled d path ∧ ∃ q, dataDirectory d path = path ∧ d'.resolve path = .ok q ∧
      d'.entry? q = some .directory ∧ pathOf q ≠ path ∧ dataDirectory d' path = pathOf q := by
  by_cases htilde : path.toList.head? = some '~'
  · exact Or.inl ⟨Or.inl htilde, dataDirectory_of_tilde htilde hretains.home⟩
  · rw [dataDirectory_of_ne htilde] at hdir ⊢
    rw [dataDirectory_of_ne htilde]
    cases hc : d.canonical? path with
    | some c =>
      obtain ⟨p, hp, he, -⟩ := canonical?_eq_some_iff.mp hc
      have hthere : d.isThere path = true := isThere_iff.mpr ⟨p, hp, he⟩
      rw [hretains.canonical? hc]
      exact Or.inl ⟨Or.inr (Or.inr (Or.inl hthere)), rfl⟩
    | none =>
      rw [hc, Option.getD_none] at hdir
      rcases hdir with rfl | hdir
      · rw [canonical?_empty]
        exact Or.inl ⟨Or.inr (Or.inl rfl), rfl⟩
      · -- the first run has made the directory, and now it has a canonical path
        obtain ⟨q, hq, hdirectory⟩ := isDirectory_iff.mp hdir
        have hiff : pathOf q = path ↔ Path.IsCanonical path :=
          pathOf_eq_iff (by rw [hretains.here]; exact hretains.rooted hhere) hq
        rw [canonical?_of_directory hq hdirectory, Option.getD_some, Option.getD_none]
        by_cases hpath : pathOf q = path
        · exact Or.inl ⟨Or.inr (Or.inr (Or.inr (hiff.mp hpath))), hpath⟩
        · refine Or.inr ⟨?_, q, rfl, hq, hdirectory, hpath, rfl⟩
          rintro (h | rfl | h | h)
          · exact htilde h
          · exact (resolve_eq_ok_iff.mp hq).1 rfl
          · obtain ⟨p, hp, he⟩ := isThere_iff.mp h
            rw [canonical?_eq_some_iff.mpr ⟨p, hp, he, rfl⟩] at hc
            cases hc
          · exact hpath (hiff.mpr h)

/-- **The settings of the second run**: they are those of the first, but that a data directory that is
not settled is written as the path of its place. -/
inductive ChosenAgain (d d' : Disk) (dir : Option String) (s : Settings) : Settings → Prop
  | same (h : ∀ path ∈ dir, IsSettled d path) : ChosenAgain d d' dir s s
  | moved {path : String} {q : Place} (hdir : dir = some path) (h : ¬ IsSettled d path)
    (hs : s.dataDir = path) (hq : d'.resolve path = .ok q) (he : d'.entry? q = some .directory)
    (hne : pathOf q ≠ path) : ChosenAgain d d' dir s { s with dataDir := pathOf q }

theorem choose_again (hhere : d.Rooted d.here) (hretains : Retains d d')
    (hs : (Settings.load d).choose d dir ws = s) (hload : Settings.load d' = s)
    (hdir : s.dataDir = "" ∨ d'.isDirectory s.dataDir = true) :
    ChosenAgain d d' dir s ((Settings.load d').choose d' dir ws) := by
  have hchoose : (Settings.load d').choose d' dir ws =
      { s with dataDir := (dir.map (dataDirectory d')).getD s.dataDir } := by
    rw [hload, ← hs]
    cases ws <;> rfl
  rw [hchoose]
  cases dir with
  | none => exact .same nofun
  | some path =>
    have hfirst : s.dataDir = dataDirectory d path := by rw [← hs]; rfl
    rw [hfirst] at hdir
    rw [Option.map_some, Option.getD_some]
    rcases dataDirectory_again hhere hretains hdir with ⟨hsettled, hagain⟩ | ⟨hnot, q, hpath, hq⟩
    · rw [hagain, ← hfirst]
      exact .same fun _ h => Option.mem_some.mp h ▸ hsettled
    · obtain ⟨hresolve, he, hne, hagain⟩ := hq
      rw [hagain]
      exact .moved rfl hnot (hfirst.trans hpath) hresolve he hne

/-- A disk that is set up for the settings of the first run is set up for those of the second. -/
theorem ChosenAgain.isSetUp {s' : Settings} (h : ChosenAgain d d' dir s s')
    (hhere : d'.Rooted d'.here) (hplain : ¬ Uri.scheme <+: s.dataDir.toList)
    (hset : IsSetUp d' s f p t) : IsSetUp d' s' f p t := by
  cases h with
  | same => exact hset
  | @moved path q _ _ hs hq he _ =>
    rw [← hs] at hq
    have hpath : d'.resolve (pathOf q) = .ok q := (rooted_of_resolve hhere hq).resolve_pathOf he
    exact {
      file := hset.file
      text := hset.text
      directory := Or.inr (isDirectory_iff.mpr ⟨q, hpath, he⟩)
      table := hset.table.joinPath isName_table (isFile_databasePath hplain)
        (isFile_databasePath (not_scheme_pathOf q)) hq hpath he }

theorem ChosenAgain.settled_iff {s' : Settings} (h : ChosenAgain d d' dir s s') :
    (∀ path ∈ dir, IsSettled d path) ↔ s' = s := by
  cases h with
  | same hsettled => exact iff_of_true hsettled rfl
  | moved hdir hnot hs _ _ hne =>
    refine iff_of_false (fun h => hnot (h _ hdir)) fun heq => hne ?_
    exact (congrArg Settings.dataDir heq).trans hs

theorem saying_singleton (line : String) : saying [line] = line ++ "\n" := by simp [saying]

/-- **What is said tells the settings** of the second run from those of the first. -/
theorem ChosenAgain.saying_iff {s' : Settings} (h : ChosenAgain d d' dir s s') :
    saying [greeting s'] = saying [greeting s] ↔ s' = s := by
  refine ⟨fun hsaid => ?_, fun heq => by rw [heq]⟩
  cases h with
  | same => rfl
  | moved hdir hnot hs hq he hne =>
    rw [saying_singleton, saying_singleton, String.append_left_inj] at hsaid
    unfold greeting at hsaid
    dsimp only at hsaid
    rw [String.append_left_inj, String.append_left_inj, String.append_left_inj,
      String.append_right_inj] at hsaid
    exact absurd (hsaid.trans hs) hne

/-- **The second run** succeeds too. -/
theorem perform_setUp_again {τ : Session} (hhere : σ.disk.Rooted σ.disk.here)
    (h : perform (setUp dir ws) σ = (.ok (), σ')) (hτ : τ.disk = σ'.disk)
    (hplain : ¬ Uri.scheme <+: (Settings.load σ'.disk).dataDir.toList) :
    ∃ s s' f p t, ChosenAgain σ.disk σ'.disk dir s s' ∧
      IsSetUp σ'.disk s f p t ∧ σ'.disk.entry? f = some (.text s.text) ∧ IsSetUp σ'.disk s' f p t ∧
      σ'.said = σ.said ++ saying [greeting s] ∧ σ'.warned = σ.warned ∧
      perform (setUp dir ws) τ = (.ok (), told [greeting s']
        { τ with disk := σ'.disk.put f (.text s'.text), place := some p, rules := t }) := by
  obtain ⟨hload, hsetUp⟩ := exists_isSetUp_of_perform h rfl
  rw [hload] at hplain
  obtain ⟨f, p, t, hset, hf, hretains, hsaid, hwarned⟩ := hsetUp hplain
  have hagain := choose_again hhere hretains rfl (load_of_entry hset.file hf) hset.directory
  have hhere' : σ'.disk.Rooted σ'.disk.here := by
    rw [hretains.here]
    exact hretains.rooted hhere
  have hset' := hagain.isSetUp hhere' hplain hset
  refine ⟨_, _, f, p, t, hagain, hset, hf, hset', hsaid, hwarned, ?_⟩
  rw [← hτ] at hset' ⊢
  exact hset'.perform rfl

/-! ## Command lines -/

theorem perform_run_init {i : Invocation} (hi : i.command = .init dir) (σ : Session) :
    perform i.run σ = perform (setUp dir i.workspace) σ := by
  rw [Invocation.run, perform_bind_of_ok (perform_get σ)]
  simp only [hi]

/-- **A command line that sets up** ends as its run does. -/
theorem run_init_eq {args : List String} {i : Invocation} (hread : Invocation.read args = .ok i)
    (hi : i.command = .init dir) (now : Stamp) (d : Disk) :
    run now args d = match perform (setUp dir i.workspace) { disk := d, now := now } with
      | (.ok (), σ) => ⟨0, σ.said, σ.warned, σ.disk⟩
      | (.error e, σ) => ⟨failureCode, σ.said, σ.warned ++ "Error: " ++ e.message ++ "\n", σ.disk⟩ := by
  rw [← perform_run_init hi, run, hread]
  simp only [perform]
  generalize i.run.run { disk := d, now := now } = r
  obtain ⟨_ | _, σ⟩ := r <;> rfl

theorem run_init_of_perform {args : List String} {i : Invocation}
    (hread : Invocation.read args = .ok i) (hi : i.command = .init dir) {now : Stamp}
    (h : perform (setUp dir i.workspace) { disk := d, now := now } = (.ok (), σ')) :
    run now args d = ⟨0, σ'.said, σ'.warned, σ'.disk⟩ := by
  rw [run_init_eq hread hi, h]

theorem exists_perform_of_code {args : List String} {i : Invocation}
    (hread : Invocation.read args = .ok i) (hi : i.command = .init dir) {now : Stamp}
    (h : (run now args d).code = 0) :
    ∃ σ', perform (setUp dir i.workspace) { disk := d, now := now } = (.ok (), σ') := by
  rw [run_init_eq hread hi] at h
  split at h
  · next hrun => exact ⟨_, hrun⟩
  · cases h

/-- **Setting up once more**, with a data directory that does not begin like a URI, succeeds, finds the
table that the first run has left, and leaves everything as it was but for the file of the settings. It
says the same as the first run, and leaves that file as it was, just when the data directory is settled.
One that is not is written as the path of its place the second time, and as it is given the first time. -/
theorem run_init_again {args : List String} {i : Invocation} {first second : Outcome}
    {now later : Stamp} (hread : Invocation.read args = .ok i) (hi : i.command = .init dir)
    (hhere : d.Rooted d.here) (hfirst : run now args d = first) (hcode : first.code = 0)
    (hplain : ¬ Uri.scheme <+: (Settings.load first.disk).dataDir.toList)
    (hsecond : run later args first.disk = second) :
    (second.code = 0 ∧ second.warned = first.warned) ∧
    (∃ p t, first.disk.Holds (Settings.load first.disk).databasePath p t ∧
      second.disk.Holds (Settings.load second.disk).databasePath p t) ∧
    (∀ p, first.disk.resolve (Settings.file first.disk.homePath) ≠ .ok p →
      second.disk.entry? p = first.disk.entry? p) ∧
    ((∀ path ∈ dir, IsSettled d path) ↔ second.said = first.said) ∧
    ((∀ path ∈ dir, IsSettled d path) ↔ ∀ p, second.disk.entry? p = first.disk.entry? p) ∧
    (∀ path ∈ dir, ¬ IsSettled d path → ∃ q, first.disk.resolve path = .ok q ∧ pathOf q ≠ path ∧
      (Settings.load first.disk).dataDir = path ∧
      Settings.load second.disk = { Settings.load first.disk with dataDir := pathOf q }) := by
  obtain ⟨σ', hrun⟩ := exists_perform_of_code hread hi (hfirst ▸ hcode)
  rw [run_init_of_perform hread hi hrun] at hfirst
  subst hfirst
  obtain ⟨s, s', f, p, t, hagain, hset, hf, hset', hsaid, hwarned, hrun'⟩ :=
    perform_setUp_again (τ := { disk := σ'.disk, now := later }) hhere hrun rfl hplain
  rw [run_init_of_perform hread hi hrun'] at hsecond
  subst hsecond
  simp only [told_disk, load_of_entry hset.file hf, hset.load_put s', hsaid, hwarned]
  refine ⟨⟨trivial, rfl⟩, ⟨p, t, hset.table, (hset'.put s'.text).table⟩, fun q hq => ?_, ?_,
    hagain.settled_iff.trans (hset.put_eq_iff hf).symm, ?_⟩
  · rw [hset.entry?_put, if_neg]
    rintro rfl
    exact hq hset.file
  · exact hagain.settled_iff.trans (hagain.saying_iff.symm.trans (String.append_right_inj "").symm)
  · rintro path hdir hnot
    cases hagain with
    | same hsettled => exact absurd (hsettled path hdir) hnot
    | moved hdir' _ hs hq _ hne =>
      cases hdir.symm.trans hdir'
      exact ⟨_, hq, hne, hs, rfl⟩

/-- A disk without settings. -/
def emptyHome : Disk := Disk.fresh ["home", "me"]

/-- Choose a data directory there. -/
def firstInit (dataDir : String) : Outcome := run 0 ["init", "--data-dir", dataDir] emptyHome

/-- Choose it again. -/
def secondInit (dataDir : String) : Outcome :=
  run 1 ["init", "--data-dir", dataDir] (firstInit dataDir).disk

theorem not_isSettled_data : ¬ IsSettled emptyHome "data" := by
  rintro (htilde | hempty | hthere | ⟨p, -, hpath⟩)
  · revert htilde
    decide
  · revert hempty
    decide
  · revert hthere
    decide +kernel
  · have habs := Path.isAbsolute_pathOf p
    rw [← hpath] at habs
    revert habs
    decide

theorem run_init_again_relative :
    ((firstInit "data").code = 0 ∧ (secondInit "data").code = 0 ∧
      (secondInit "data").said ≠ (firstInit "data").said) ∧
    (firstInit "/data").code = 0 ∧ (secondInit "/data").said = (firstInit "/data").said := by
  have hhere : emptyHome.Rooted emptyHome.here := ⟨by decide +kernel, by decide⟩
  have hrelative : (firstInit "data").code = 0 := by decide +kernel
  have habsolute : (firstInit "/data").code = 0 := by decide +kernel
  have hplain : ∀ dataDir ∈ ["data", "/data"],
      ¬ Uri.scheme <+: (Settings.load (firstInit dataDir).disk).dataDir.toList := by
    decide +kernel
  have hsettled : IsSettled emptyHome "/data" :=
    Or.inr (Or.inr (Or.inr ⟨["data"], by decide, by decide⟩))
  obtain ⟨⟨hcode, -⟩, -, -, hiff, -⟩ := run_init_again (i := ⟨none, none, .init (some "data")⟩)
    (by rfl) rfl hhere rfl hrelative (hplain _ (by simp)) (rfl : _ = secondInit "data")
  obtain ⟨-, -, -, hiff', -⟩ := run_init_again (i := ⟨none, none, .init (some "/data")⟩)
    (by rfl) rfl hhere rfl habsolute (hplain _ (by simp)) (rfl : _ = secondInit "/data")
  refine ⟨⟨hrelative, hcode, fun hsaid => ?_⟩, habsolute, hiff'.mp ?_⟩
  · exact not_isSettled_data (hiff.mpr hsaid _ rfl)
  · exact fun _ h => Option.mem_some.mp h ▸ hsettled

end PostingRules
