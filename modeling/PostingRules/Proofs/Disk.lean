import PostingRules.Disk.Basic
import PostingRules.Proofs.Disk.Path

/-!
# What changes on a disk

* `entry?_put`: what stands at the places of a disk behind a write;
* `Extends`: the second disk has the directories of the first; `Extends.follow`: paths that could be
  followed lead to the same places;
* **`readText_of_writeText`**: a text that is written is read again;
* `Grows`: the second disk is the first with more directories; **`makeAll_grows`**: making directories
  does no more than that;
* **`isDirectory_of_makeAll`**: a directory that has been made is there.
-/

namespace PostingRules.Disk

variable {d d' d'' : Disk} {p q r : Place} {ns ms : List String} {e : Entry} {path : String}

/-! ## Entries -/

@[simp] theorem put_home (d : Disk) (p : Place) (e : Entry) : (d.put p e).home = d.home := by
  unfold put
  split <;> rfl

@[simp] theorem put_here (d : Disk) (p : Place) (e : Entry) : (d.put p e).here = d.here := by
  unfold put
  split <;> rfl

theorem lookup_replace (l : List (Place × Entry)) (p q : Place) (e : Entry) :
    (l.map fun x => if x.1 = p then (p, e) else x).lookup q =
      if q = p then (l.lookup p).map fun _ => e else l.lookup q := by
  induction l with
  | nil => simp
  | cons x l ih =>
    rw [List.map_cons, List.lookup_cons, List.lookup_cons, List.lookup_cons, ih]
    by_cases hq : q = p
    · by_cases hx : x.1 = p
      · simp [hx, hq]
      · simp [hx, hq, beq_eq_false_iff_ne.mpr (Ne.symm hx)]
    · by_cases hx : x.1 = p
      · simp [hx, hq, beq_eq_false_iff_ne.mpr hq]
      · simp [hx, hq]

theorem lookup_put (d : Disk) (p q : Place) (e : Entry) :
    (d.put p e).entries.lookup q = if q = p then some e else d.entries.lookup q := by
  unfold put
  split
  · next h =>
    obtain ⟨a, ha⟩ := Option.isSome_iff_exists.mp h
    simp only [lookup_replace, ha, Option.map_some]
  · next h =>
    rw [Option.not_isSome_iff_eq_none] at h
    simp only [List.lookup_append]
    by_cases hq : q = p
    · rw [hq, h]
      simp
    · have hnew : [(p, e)].lookup q = none := by
        rw [List.lookup_cons, beq_eq_false_iff_ne.mpr hq]
        rfl
      rw [hnew, Option.or_none, if_neg hq]

/-- **What stands behind a write** is what was written, and elsewhere what stood there. -/
theorem entry?_put (hp : p ≠ []) :
    Disk.entry? (d.put p e) q = if q = p then some e else d.entry? q := by
  rw [Disk.entry?, lookup_put, Disk.entry?]
  by_cases hq : q = []
  · rw [if_pos hq, if_pos hq, if_neg (by rw [hq]; exact Ne.symm hp)]
  · rw [if_neg hq, if_neg hq]

theorem entry?_put_self (hp : p ≠ []) : Disk.entry? (d.put p e) p = some e := by
  rw [entry?_put hp, if_pos rfl]

theorem ne_nil_of_ne_directory (h : d.entry? p ≠ some .directory) : p ≠ [] := by
  rintro rfl
  exact h rfl

/-! ## Directories that stay -/

/-- The second disk has the directories of the first. -/
structure Extends (d d' : Disk) : Prop where
  home : d'.home = d.home
  here : d'.here = d.here
  directory : ∀ q, d.entry? q = some .directory → d'.entry? q = some .directory

theorem Extends.put (hp : d.entry? p ≠ some .directory) (e : Entry) :
    Extends d (d.put p e) := by
  refine ⟨put_home d p e, put_here d p e, fun q hq => ?_⟩
  rw [entry?_put (ne_nil_of_ne_directory hp), if_neg, hq]
  rintro rfl
  exact hp hq

theorem follow_append (d : Disk) (p : Place) (ms ns : List String) :
    d.follow p (ms ++ ns) = (d.follow p ms).bind fun q => d.follow q ns := by
  induction ms generalizing p with
  | nil => rfl
  | cons m ms ih =>
    rw [List.cons_append, follow, follow]
    cases d.entry? p with
    | none => rfl
    | some e =>
      cases e with
      | directory =>
        simp only [ih]
        split
        · rfl
        · split <;> rfl
      | text content => rfl
      | table s => rfl

theorem entry?_of_follow_cons {n : String} (h : d.follow p (n :: ns) = .ok q) :
    d.entry? p = some .directory := by
  rw [follow] at h
  cases hp : d.entry? p with
  | none => rw [hp] at h; cases h
  | some e =>
    cases e with
    | directory => rfl
    | text content => rw [hp] at h; cases h
    | table s => rw [hp] at h; cases h

theorem follow_cons_of_directory (h : d.entry? p = some .directory) (n : String)
    (ns : List String) : d.follow p (n :: ns) =
      if n.isEmpty || n = "." then d.follow p ns
      else if n = ".." then d.follow p.dropLast ns
      else d.follow (p ++ [n]) ns := by
  rw [follow, h]

/-- **Names lead to the same place** on a disk that has the directories. -/
theorem Extends.follow (hd : Extends d d') (h : d.follow p ns = .ok q) :
    d'.follow p ns = .ok q := by
  induction ns generalizing p with
  | nil => exact h
  | cons n ns ih =>
    have hp := entry?_of_follow_cons h
    rw [follow_cons_of_directory hp] at h
    rw [follow_cons_of_directory (hd.directory p hp)]
    split_ifs at h ⊢ <;> exact ih h

theorem Extends.start (hd : Extends d d') (path : String) : d'.start path = d.start path := by
  rw [Disk.start, Disk.start, hd.here]

theorem Extends.resolve (hd : Extends d d') (h : d.resolve path = .ok p) :
    d'.resolve path = .ok p := by
  unfold Disk.resolve at h ⊢
  split_ifs at h ⊢
  rw [hd.start]
  exact hd.follow h

/-- **What stands where a path leads to** stands at its place. -/
theorem toOption_entryAt_eq_some_iff : (d.entryAt path).toOption = some e ↔
    ∃ p, d.resolve path = .ok p ∧ d.entry? p = some e := by
  rw [entryAt]
  cases d.resolve path with
  | error f => simp [bind, Except.bind, Except.toOption]
  | ok p => cases he : d.entry? p <;> simp [bind, Except.bind, Except.toOption, he]

theorem isDirectory_iff :
    d.isDirectory path = true ↔ ∃ p, d.resolve path = .ok p ∧ d.entry? p = some .directory := by
  rw [isDirectory, decide_eq_true_eq, toOption_entryAt_eq_some_iff]

theorem Extends.isDirectory (hd : Extends d d') (h : d.isDirectory path = true) :
    d'.isDirectory path = true := by
  obtain ⟨p, hp, he⟩ := isDirectory_iff.mp h
  exact isDirectory_iff.mpr ⟨p, hd.resolve hp, hd.directory p he⟩

/-! ## Texts -/

theorem writeText_eq_ok_iff {content : String} : d.writeText path content = .ok d' ↔
    ∃ p, d.resolve path = .ok p ∧ d.entry? p ≠ some .directory ∧ d' = d.put p (.text content) := by
  rw [writeText]
  cases d.resolve path with
  | error f => simp [bind, Except.bind]
  | ok p =>
    simp only [bind, Except.bind, Except.ok.injEq, exists_eq_left']
    split
    · next h => simp [h]
    · next h =>
      rw [Except.ok.injEq]
      exact ⟨fun hd => ⟨h, hd.symm⟩, fun hd => hd.2.symm⟩

/-- **A text that is written** is read again. -/
theorem readText_of_writeText {content : String} (h : d.writeText path content = .ok d') :
    d'.readText path = .ok content := by
  obtain ⟨p, hp, hne, rfl⟩ := writeText_eq_ok_iff.mp h
  have hresolve : (d.put p (.text content)).resolve path = .ok p := (Extends.put hne _).resolve hp
  rw [readText, entryAt, hresolve]
  simp [bind, Except.bind, entry?_put_self (ne_nil_of_ne_directory hne)]

/-! ## Directories that are made -/

/-- The second disk is the first with more directories, where nothing stood. -/
structure Grows (d d' : Disk) : Prop where
  home : d'.home = d.home
  here : d'.here = d.here
  entry : ∀ q, d'.entry? q = d.entry? q ∨ d.entry? q = none ∧ d'.entry? q = some .directory

theorem Grows.refl (d : Disk) : Grows d d := ⟨rfl, rfl, fun _ => Or.inl rfl⟩

theorem Grows.trans (h : Grows d d') (h' : Grows d' d'') : Grows d d'' := by
  refine ⟨h'.home.trans h.home, h'.here.trans h.here, fun q => ?_⟩
  rcases h.entry q with e | ⟨hnone, hdir⟩
  · rw [← e]
    exact h'.entry q
  · rcases h'.entry q with e' | ⟨hnone', -⟩
    · exact Or.inr ⟨hnone, e'.trans hdir⟩
    · rw [hdir] at hnone'
      cases hnone'

theorem Grows.extends (h : Grows d d') : Extends d d' := by
  refine ⟨h.home, h.here, fun q hq => ?_⟩
  rcases h.entry q with e | ⟨-, hdir⟩
  · rw [e, hq]
  · exact hdir

theorem Grows.put (hp : d.entry? p = none) : Grows d (d.put p .directory) := by
  have hroot : p ≠ [] := ne_nil_of_ne_directory (by rw [hp]; exact nofun)
  refine ⟨put_home _ _ _, put_here _ _ _, fun q => ?_⟩
  rw [entry?_put hroot]
  split
  · next h => exact Or.inr ⟨h ▸ hp, rfl⟩
  · exact Or.inl rfl

theorem make_eq_ok_iff : d.make path = .ok d' ↔ path ≠ "" ∧
    ∃ p, d.follow (d.start path) (Path.stepsToMake path) = .ok p ∧ d.entry? p = none ∧
      d' = d.put p .directory := by
  unfold make
  split
  · next h => simp [String.isEmpty_iff.mp h]
  · next h =>
    rw [String.isEmpty_iff] at h
    cases d.follow (d.start path) (Path.stepsToMake path) with
    | error f => simp
    | ok p =>
      cases hp : d.entry? p with
      | none => simp [h, hp, eq_comm (a := d')]
      | some e => simp [hp]

theorem make_grows (h : d.make path = .ok d') : Grows d d' := by
  obtain ⟨-, p, -, hp, rfl⟩ := make_eq_ok_iff.mp h
  exact Grows.put hp

theorem makeWith_grows (d : Disk) (path : String) (above : List String) :
    Grows d (d.makeWith path above).2 := by
  fun_induction makeWith d path above with
  | case1 | case3 | case8 | case9 => exact .refl d
  | case2 _ _ _ _ hmake => exact make_grows hmake
  | case4 _ _ _ _ _ _ _ habove ih | case6 _ _ _ _ _ _ habove _ _ _ ih
  | case7 _ _ _ _ _ _ habove _ _ _ ih =>
    -- the directories above have been made, or some of them
    rw [habove] at ih
    exact ih
  | case5 _ _ _ _ _ _ habove _ hmake ih =>
    rw [habove] at ih
    exact ih.trans (make_grows hmake)

/-- **Making directories** adds directories and nothing else. -/
theorem makeAll_grows (d : Disk) (path : String) : Grows d (d.makeAll path).2 :=
  makeWith_grows d path (Path.above path)

theorem exists_steps_eq (path : String) :
    ∃ back, Path.steps path = Path.stepsToMake path ++ back ∧ ∀ n ∈ back, n.isEmpty = true := by
  refine ⟨((Path.steps path).reverse.takeWhile (·.isEmpty)).reverse, ?_, fun n hn => ?_⟩
  · rw [Path.stepsToMake, ← List.reverse_append, List.takeWhile_append_dropWhile,
      List.reverse_reverse]
  · exact List.all_eq_true.mp List.all_takeWhile n (List.mem_reverse.mp hn)

theorem follow_empty {back : List String} (hb : ∀ n ∈ back, n.isEmpty = true)
    (hp : d.entry? p = some .directory) : d.follow p back = .ok p := by
  induction back with
  | nil => rfl
  | cons n back ih =>
    rw [List.forall_mem_cons] at hb
    rw [follow_cons_of_directory hp, hb.1]
    exact ih hb.2

/-- A path that is made leads to the directory. -/
theorem resolve_of_stepsToMake (hne : path ≠ "")
    (h : d.follow (d.start path) (Path.stepsToMake path) = .ok p)
    (hp : d.entry? p = some .directory) : d.resolve path = .ok p := by
  obtain ⟨back, hsteps, hb⟩ := exists_steps_eq path
  rw [resolve, if_neg (by rwa [String.isEmpty_iff]), hsteps, follow_append, h]
  exact follow_empty hb hp

theorem isDirectory_of_make (h : d.make path = .ok d') : d'.isDirectory path = true := by
  obtain ⟨hne, p, hfollow, hp, rfl⟩ := make_eq_ok_iff.mp h
  have hext : Extends d (d.put p .directory) := (Grows.put hp).extends
  have hroot : p ≠ [] := ne_nil_of_ne_directory (by rw [hp]; exact nofun)
  have hdir : Disk.entry? (d.put p .directory) p = some .directory := entry?_put_self hroot
  refine isDirectory_iff.mpr ⟨p, resolve_of_stepsToMake hne ?_ hdir, hdir⟩
  rw [hext.start]
  exact hext.follow hfollow

theorem isDirectory_of_makeWith (d : Disk) (above : List String) (hne : path ≠ "") :
    (d.makeWith path above).1 = .ok () → (d.makeWith path above).2.isDirectory path = true := by
  fun_cases makeWith d path above with
  | case1 _ hempty => exact absurd (String.isEmpty_iff.mp hempty) hne
  | case2 _ _ _ hmake => exact fun _ => isDirectory_of_make hmake
  | case3 | case4 | case7 | case9 => exact nofun
  | case5 _ _ _ _ _ _ _ hmake => exact fun _ => isDirectory_of_make hmake
  | case6 _ _ _ _ _ _ _ _ hdir | case8 _ _ _ _ _ hdir => exact fun _ => hdir

/-- **A directory that has been made** is there. -/
theorem isDirectory_of_makeAll (hne : path ≠ "") (h : d.makeAll path = (.ok (), d')) :
    d'.isDirectory path = true := by
  have hmade := isDirectory_of_makeWith d (Path.above path) hne
  rw [← makeAll, h] at hmade
  exact hmade rfl

/-- **A directory that is there** is not made again. -/
theorem makeAll_of_isDirectory (h : d.isDirectory path = true) : d.makeAll path = (.ok (), d) := by
  obtain ⟨p, hp, hdir⟩ := isDirectory_iff.mp h
  obtain ⟨back, hsteps, hb⟩ := exists_steps_eq path
  have hne : ¬ path.isEmpty = true := by
    intro hempty
    rw [resolve, if_pos hempty] at hp
    cases hp
  rw [resolve, if_neg hne, hsteps, follow_append] at hp
  cases hq : d.follow (d.start path) (Path.stepsToMake path) with
  | error f =>
    rw [hq] at hp
    cases hp
  | ok q =>
    have hq' : (d.entry? q).isSome = true := by
      rw [hq] at hp
      cases back with
      | nil =>
        cases hp
        rw [hdir]
        rfl
      | cons n back =>
        rw [entry?_of_follow_cons hp]
        rfl
    have hmake : d.make path = .error .exists := by rw [make, if_neg hne, hq]; simp [hq']
    cases hab : Path.above path with
    | nil => simp [makeAll, makeWith, hab, hne, hmake, h]
    | cons a above => simp [makeAll, makeWith, hab, hne, hmake, h]

end PostingRules.Disk
