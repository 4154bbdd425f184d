import PostingRules.Command.SetUp
import PostingRules.Proofs.Command.Session
import PostingRules.Proofs.Settings

/-!
# Saved settings

* `Settings.Writable`: the settings can be written to a disk;
* `perform_save`: what saving does;
* `writable_of_isDirectory`, `writable_of_entryAt`: they can be written where their directory is there,
  and over any file;
* **`load_of_save`**: settings that are saved are loaded again.
-/

namespace PostingRules.Settings

open PostingRules.Disk Run

variable {d : Disk} {home : String} {σ : Session}

/-- **The settings can be written**: their directory can be made, and no directory is in the place of
their file. -/
def Writable (d : Disk) : Prop :=
  (d.makeAll (directory d.homePath)).1 = .ok () ∧
    (d.makeAll (directory d.homePath)).2.isDirectory (file d.homePath) = false

instance (d : Disk) : Decidable (Writable d) :=
  inferInstanceAs (Decidable ((d.makeAll (directory d.homePath)).1 = .ok () ∧
    (d.makeAll (directory d.homePath)).2.isDirectory (file d.homePath) = false))

theorem file_eq (home : String) : file home = directory home ++ "/" ++ "settings.json" := by
  rw [file, String.append_assoc]
  rfl

theorem directory_ne_empty (home : String) : directory home ≠ "" := by
  intro h
  have hlength := congrArg String.length h
  simp [directory] at hlength

theorem steps_file (home : String) :
    Path.steps (file home) = Path.steps (directory home) ++ ["settings.json"] := by
  have hname : Path.steps "settings.json" = ["settings.json"] := Path.steps_of_notMem (by decide)
  rw [file_eq, Path.steps_append_slash, hname]

theorem start_file (d : Disk) (home : String) : d.start (file home) = d.start (directory home) := by
  have hne : (directory home).toList ≠ [] := by simpa using directory_ne_empty home
  obtain ⟨c, cs, hcs⟩ := List.exists_cons_of_ne_nil hne
  rw [start, start, Path.isAbsolute, Path.isAbsolute, file_eq]
  simp [hcs]

/-- **The path of the file** leads to a place where the directory of the settings is there. -/
theorem exists_resolve_file_iff :
    (∃ p, d.resolve (file home) = .ok p) ↔ d.isDirectory (directory home) = true := by
  have hfile : ¬ (file home).isEmpty = true := by simp [file]
  have hdir : ¬ (directory home).isEmpty = true := by
    rw [String.isEmpty_iff]
    exact directory_ne_empty home
  rw [isDirectory_iff, resolve, resolve, if_neg hfile, if_neg hdir, start_file, steps_file,
    follow_append]
  cases d.follow (d.start (directory home)) (Path.steps (directory home)) with
  | error f => simp [Except.bind]
  | ok q =>
    simp only [Except.bind, Except.ok.injEq, exists_eq_left']
    constructor
    · rintro ⟨p, hp⟩
      exact entry?_of_follow_cons hp
    · intro hq
      rw [follow_cons_of_directory hq]
      exact ⟨_, rfl⟩

theorem exists_writeText_file_iff {content : String} :
    (∃ d', d.writeText (file home) content = .ok d') ↔
      d.isDirectory (directory home) = true ∧ d.isDirectory (file home) = false := by
  rw [← exists_resolve_file_iff, ← Bool.not_eq_true, isDirectory_iff]
  simp only [writeText_eq_ok_iff]
  constructor
  · rintro ⟨-, p, hp, hne, -⟩
    refine ⟨⟨p, hp⟩, ?_⟩
    rintro ⟨q, hq, hdir⟩
    rw [hp] at hq
    cases hq
    exact hne hdir
  · rintro ⟨⟨p, hp⟩, hne⟩
    exact ⟨_, p, hp, fun hdir => hne ⟨p, hp, hdir⟩, rfl⟩

/-! ## Saving -/

theorem perform_save (s : Settings) (σ : Session) : perform s.save σ =
    match σ.disk.makeAll (directory σ.disk.homePath) with
    | (.error e, d) => (.error (.disk e), { σ with disk := d })
    | (.ok (), d) => perform (writeFile (file σ.disk.homePath) s.text) { σ with disk := d } := by
  rw [save, perform_bind_of_ok (perform_get σ), perform_bind, perform_makeDirectory]
  obtain ⟨_ | _, d⟩ := σ.disk.makeAll (directory σ.disk.homePath) <;> rfl

/-- **What a successful saving does**: the file is written to a disk that has more directories. -/
theorem perform_save_eq_ok_iff (s : Settings) (σ σ' : Session) :
    perform s.save σ = (.ok (), σ') ↔
      ∃ d d', σ.disk.makeAll (directory σ.disk.homePath) = (.ok (), d) ∧
        d.writeText (file σ.disk.homePath) s.text = .ok d' ∧ σ' = { σ with disk := d' } := by
  rw [perform_save]
  obtain ⟨_ | _, d⟩ := σ.disk.makeAll (directory σ.disk.homePath)
  · simp
  · simp only [perform_writeFile, Prod.mk.injEq, true_and, exists_and_left, exists_eq_left']
    cases d.writeText (file σ.disk.homePath) s.text with
    | error f => simp
    | ok d' => simp [eq_comm]

/-- **Settings are saved** where they can be written. -/
theorem save_succeeds_iff (s : Settings) (σ : Session) :
    (∃ σ', perform s.save σ = (.ok (), σ')) ↔ Writable σ.disk := by
  simp only [perform_save_eq_ok_iff, Writable]
  cases hmake : σ.disk.makeAll (directory σ.disk.homePath) with
  | mk r d =>
    constructor
    · rintro ⟨_, _, d', ⟨⟩, hwrite, -⟩
      exact ⟨rfl, (exists_writeText_file_iff.mp ⟨d', hwrite⟩).2⟩
    · rintro ⟨rfl, hfile⟩
      have hdir : d.isDirectory (directory σ.disk.homePath) = true :=
        isDirectory_of_makeAll (directory_ne_empty _) hmake
      obtain ⟨d', hwrite⟩ := exists_writeText_file_iff.mpr ⟨hdir, hfile⟩
      exact ⟨_, d, d', rfl, hwrite, rfl⟩

/-- **Settings that have been saved** are loaded again. -/
theorem load_of_perform_save {s : Settings} {σ' : Session}
    (h : perform s.save σ = (.ok (), σ')) : load σ'.disk = s := by
  obtain ⟨d, d', hmake, hwrite, rfl⟩ := (perform_save_eq_ok_iff s σ σ').mp h
  have hhome : d'.homePath = σ.disk.homePath := by
    obtain ⟨p, -, -, rfl⟩ := writeText_eq_ok_iff.mp hwrite
    have hgrows := makeAll_grows σ.disk (directory σ.disk.homePath)
    rw [hmake] at hgrows
    rw [homePath, put_home, hgrows.home, homePath]
  rw [load, hhome, readText_of_writeText hwrite]
  exact read_text _ s

/-- The settings can be written where their directory is there and no directory is in the place of
their file. -/
theorem writable_of_isDirectory (hdir : d.isDirectory (directory d.homePath) = true)
    (hfile : d.isDirectory (file d.homePath) = false) : Writable d := by
  rw [Writable, makeAll_of_isDirectory hdir]
  exact ⟨rfl, hfile⟩

/-- The settings can be written over any file. -/
theorem writable_of_entryAt {e : Entry} (he : d.entryAt (file d.homePath) = .ok e)
    (hne : e ≠ .directory) : Writable d := by
  have hresolve : ∃ p, d.resolve (file d.homePath) = .ok p := by
    cases hp : d.resolve (file d.homePath) with
    | ok p => exact ⟨p, rfl⟩
    | error f =>
      rw [entryAt, hp] at he
      cases he
  refine writable_of_isDirectory (exists_resolve_file_iff.mp hresolve) ?_
  rw [isDirectory, he, decide_eq_false_iff_not]
  simpa [Except.toOption] using hne

/-- **Saved settings are loaded again.** The text of settings holds just these settings. Whatever the
disk holds in the place of their file, settings that have been saved are those that are loaded behind
that. They are saved wherever they can be written: over every file, and where there is none if their
directory is there. -/
theorem load_of_save (s : Settings) (σ : Session) :
    (∀ home, read home s.text = s) ∧
    (∀ σ', perform s.save σ = (.ok (), σ') → load σ'.disk = s) ∧
    ((∃ σ', perform s.save σ = (.ok (), σ')) ↔ Writable σ.disk) ∧
    (∀ e, σ.disk.entryAt (file σ.disk.homePath) = .ok e → e ≠ .directory → Writable σ.disk) ∧
    (σ.disk.isDirectory (directory σ.disk.homePath) = true →
      σ.disk.isDirectory (file σ.disk.homePath) = false → Writable σ.disk) :=
  ⟨fun home => read_text home s, fun _ => load_of_perform_save, save_succeeds_iff s σ,
    fun _ => writable_of_entryAt, writable_of_isDirectory⟩

/-- Settings with quotes, backslashes, controls and letters beyond 16 bits. -/
def oddSettings : Settings :=
  ⟨"C:\\a \"b\"\n\t\u0001\u007f", "\u0000å\u2028😀", "\x7b\\u0041\x7d/"⟩

/-- A session that begins on a disk without settings. -/
def freshSession : Session := { disk := Disk.fresh ["home", "me"], now := 0 }

theorem load_of_save_oddSettings : Writable freshSession.disk ∧
    (∃ σ', perform oddSettings.save freshSession = (.ok (), σ') ∧ load σ'.disk = oddSettings) ∧
    load freshSession.disk ≠ oddSettings := by
  have hwritable : Writable freshSession.disk := by decide +kernel
  obtain ⟨-, hload, hsave, -⟩ := load_of_save oddSettings freshSession
  obtain ⟨σ', hσ'⟩ := hsave.mpr hwritable
  exact ⟨hwritable, ⟨σ', hσ', hload σ' hσ'⟩, by decide +kernel⟩

end PostingRules.Settings
