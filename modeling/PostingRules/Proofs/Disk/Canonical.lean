import PostingRules.Proofs.Disk.Table
import PostingRules.Settings

/-!
# Canonical paths

Many paths lead to one place, and one of them is written from the root, with a slash in front of each
name and nothing else.

* `Path.IsName`, `IsCanonical`: the names of a place, and the paths that are written so;
* `way_joinPath`, `isAbsolute_joinPath`, `prefix_of_prefix_joinPath`: a name in a directory;
* `Retains`: the second disk has what stands on the first; `Retains.canonical?`: the canonical path
  stays;
* `Rooted`: the names of a place lead there; `Rooted.follow`: steps lead from such a place to such a
  place, and `Rooted.resolve_pathOf`: so does the path of the place;
* **`pathOf_eq_iff`**: a path is that of its place just when it is canonical;
* `housed_joinPath`, `Holds.joinPath`: a table in a directory, whichever path leads to the directory.
-/

namespace PostingRules

namespace Path

open Settings

/-- The name of something in a directory: it leads on, and not up. -/
def IsName (n : String) : Prop := IsStep n = true ∧ n ≠ ".." ∧ '/' ∉ n.toList

instance (n : String) : Decidable (IsName n) :=
  inferInstanceAs (Decidable (IsStep n = true ∧ n ≠ ".." ∧ '/' ∉ n.toList))

/-- **A canonical path**: the path of a place. -/
def IsCanonical (path : String) : Prop := ∃ p : Place, (∀ n ∈ p, IsName n) ∧ path = Disk.pathOf p

theorem IsName.step {n : String} (h : IsName n) : ¬ (n.isEmpty || n = ".") = true := by
  rw [← Disk.not_isStep_iff, not_not]
  exact h.1

theorem filter_isStep {p : List String} (h : ∀ n ∈ p, IsName n) : p.filter IsStep = p :=
  List.filter_eq_self.mpr fun n hn => (h n hn).1

theorem IsName.isAbsolute {n : String} (h : IsName n) : isAbsolute n = false := by
  rw [Path.isAbsolute, decide_eq_false_iff_not]
  exact fun hhead => h.2.2 (List.mem_of_head? hhead)

theorem IsName.parent? {n : String} (h : IsName n) : parent? n = some "" := by
  have hpoint : n ≠ "." := by
    rintro rfl
    exact h.step rfl
  have hkept : [n].filter (fun m => !m.isEmpty && m != ".") = [n] := filter_isStep (by simpa using h)
  have hnames : names n = [n] := by
    unfold names
    rw [steps_of_notMem h.2.2, hkept]
    simp [hpoint]
  rw [Path.parent?, hnames, h.isAbsolute]
  rfl

theorem way_pathOf {p : Place} (h : ∀ n ∈ p, IsName n) : way (Disk.pathOf p) = p := by
  rw [Disk.pathOf, way_ofNames true fun n hn => (h n hn).2.2, filter_isStep h]

theorem isAbsolute_pathOf (p : Place) : isAbsolute (Disk.pathOf p) = true := by
  simp [isAbsolute, Disk.pathOf, ofNames]

theorem pathOf_ne_empty (p : Place) : Disk.pathOf p ≠ "" := by
  intro h
  have habs := isAbsolute_pathOf p
  rw [h] at habs
  cases habs

/-! ## A name in a directory -/

theorem joinPath_empty (name : String) : joinPath "" name = name := by simp [joinPath]

theorem way_append_slash (front : String) : way (front ++ "/") = way front := by
  have hsteps := steps_append_slash front ""
  rw [String.append_empty] at hsteps
  rw [way, hsteps, List.filter_append]
  exact List.append_nil _

/-- **The way to a name in a directory** is that to the directory, and then the name. -/
theorem way_joinPath {name : String} (h : IsName name) (dir : String) :
    way (joinPath dir name) = way dir ++ [name] := by
  have hname : way name = [name] := by
    rw [way, steps_of_notMem h.2.2, filter_isStep (by simpa using h)]
  have hjoin : ∀ front, way (front ++ "/" ++ name) = way front ++ [name] := fun front => by
    rw [way, steps_append_slash, List.filter_append, ← way, ← way, hname]
  unfold joinPath
  split
  · next hcase =>
    rcases Bool.or_eq_true_iff.mp hcase with hempty | hslash
    · obtain rfl := String.isEmpty_iff.mp hempty
      rw [String.empty_append, hname]
      rfl
    · obtain ⟨front, hfront⟩ := List.getLast?_eq_some_iff.mp (of_decide_eq_true hslash)
      obtain rfl : dir = String.ofList front ++ "/" := by
        rw [← String.toList_inj, hfront]
        simp
      rw [hjoin, way_append_slash]
  · exact hjoin dir

theorem isAbsolute_joinPath {name : String} (h : IsName name) (dir : String) :
    isAbsolute (joinPath dir name) = isAbsolute dir := by
  by_cases hempty : dir = ""
  · rw [hempty, joinPath_empty, h.isAbsolute]
    rfl
  · obtain ⟨c, cs, hcs⟩ := List.exists_cons_of_ne_nil (mt String.toList_eq_nil_iff.mp hempty)
    unfold joinPath
    split <;> simp [isAbsolute, hcs]

/-- A text without this character that begins two joined ones begins the first of them. -/
theorem prefix_of_prefix_append_cons {a l r : List Char} {c : Char} (hc : c ∉ a)
    (h : a <+: l ++ c :: r) : a <+: l := by
  rcases List.prefix_or_prefix_of_prefix h (List.prefix_append l _) with hprefix | ⟨t, rfl⟩
  · exact hprefix
  · rw [List.prefix_append_right_inj] at h
    cases t with
    | nil => simp
    | cons x t =>
      rw [(List.cons_prefix_cons.mp h).1] at hc
      exact absurd (by simp) hc

/-- **What the path of a name in a directory begins with**, the directory begins with. -/
theorem prefix_of_prefix_joinPath {a : List Char} {dir name : String} (hslash : '/' ∉ a)
    (hname : ¬ a <+: name.toList) (h : a <+: (joinPath dir name).toList) : a <+: dir.toList := by
  unfold joinPath at h
  split at h
  · next hcase =>
    rcases Bool.or_eq_true_iff.mp hcase with hempty | hlast
    · rw [String.isEmpty_iff.mp hempty, String.empty_append] at h
      exact absurd h hname
    · obtain ⟨front, hfront⟩ := List.getLast?_eq_some_iff.mp (of_decide_eq_true hlast)
      rw [String.toList_append, hfront, List.append_assoc, List.singleton_append] at h
      rw [hfront]
      exact (prefix_of_prefix_append_cons hslash h).trans (List.prefix_append _ _)
  · rw [String.toList_append, String.toList_append, List.append_assoc] at h
    exact prefix_of_prefix_append_cons hslash h

end Path

namespace Disk

open Settings

variable {d d' d'' : Disk} {p q : Place} {ns : List String} {path dir name : String} {s : Store}

/-! ## Canonical paths -/

theorem isThere_iff : d.isThere path = true ↔ ∃ p, d.resolve path = .ok p ∧ d.entry? p ≠ none := by
  simp only [isThere, Option.isSome_iff_exists, toOption_entryAt_eq_some_iff,
    Option.ne_none_iff_exists']
  rw [exists_comm]
  simp only [exists_and_left]

theorem canonical?_eq_some_iff {c : String} : d.canonical? path = some c ↔
    ∃ p, d.resolve path = .ok p ∧ d.entry? p ≠ none ∧ c = pathOf p := by
  by_cases hthere : d.isThere path = true
  · obtain ⟨p, hp, he⟩ := isThere_iff.mp hthere
    have hcanonical : d.canonical? path = some (pathOf p) := by
      rw [canonical?, if_pos hthere, hp]
      rfl
    rw [hcanonical, hp]
    simp only [Option.some.injEq, Except.ok.injEq, exists_eq_left', he, ne_eq, not_false_eq_true,
      true_and]
    exact eq_comm
  · rw [canonical?, if_neg hthere]
    refine iff_of_false nofun ?_
    rintro ⟨p, hp, he, -⟩
    exact hthere (isThere_iff.mpr ⟨p, hp, he⟩)

/-- The second disk has what stands on the first, though a file may hold something else. -/
structure Retains (d d' : Disk) : Prop extends Extends d d' where
  present : ∀ q, d.entry? q ≠ none → d'.entry? q ≠ none

theorem Retains.trans (h : Retains d d') (h' : Retains d' d'') : Retains d d'' where
  home := h'.home.trans h.home
  here := h'.here.trans h.here
  directory q hq := h'.directory q (h.directory q hq)
  present q hq := h'.present q (h.present q hq)

theorem Grows.retains (h : Grows d d') : Retains d d' := by
  refine ⟨h.extends, fun q hq => ?_⟩
  rcases h.entry q with e | ⟨hnone, -⟩
  · rwa [e]
  · exact absurd hnone hq

theorem Retains.put (hp : d.entry? p ≠ some .directory) (e : Entry) : Retains d (d.put p e) := by
  refine ⟨Extends.put hp e, fun q hq => ?_⟩
  rw [entry?_put (ne_nil_of_ne_directory hp)]
  split
  · exact nofun
  · exact hq

/-- **A canonical path stays.** -/
theorem Retains.canonical? (h : Retains d d') {c : String} (hc : d.canonical? path = some c) :
    d'.canonical? path = some c := by
  obtain ⟨p, hp, he, rfl⟩ := canonical?_eq_some_iff.mp hc
  exact canonical?_eq_some_iff.mpr ⟨p, h.resolve hp, h.present p he, rfl⟩

theorem canonical?_of_directory (h : d.resolve path = .ok p) (hp : d.entry? p = some .directory) :
    d.canonical? path = some (pathOf p) :=
  canonical?_eq_some_iff.mpr ⟨p, h, by rw [hp]; exact nofun, rfl⟩

/-! ## Places that are reached from the root -/

/-- **The names of the place lead there** from the root. -/
def Rooted (d : Disk) (p : Place) : Prop := d.follow [] p = .ok p ∧ ∀ n ∈ p, Path.IsName n

theorem rooted_nil (d : Disk) : d.Rooted [] := ⟨rfl, nofun⟩

/-- Names lead down. -/
theorem eq_append_of_follow (hns : ∀ n ∈ ns, Path.IsName n) (h : d.follow p ns = .ok q) :
    q = p ++ ns := by
  induction ns generalizing p with
  | nil =>
    cases h
    exact (List.append_nil _).symm
  | cons n ns ih =>
    rw [List.forall_mem_cons] at hns
    rw [follow_cons_of_directory (entry?_of_follow_cons h), if_neg hns.1.step, if_neg hns.1.2.1] at h
    rw [ih hns.2 h, List.append_assoc, List.singleton_append]

theorem Rooted.dropLast (h : d.Rooted p) : d.Rooted p.dropLast := by
  rcases List.eq_nil_or_concat' p with rfl | ⟨front, n, rfl⟩
  · exact h
  · have hnames : ∀ m ∈ front, Path.IsName m := fun m hm => h.2 m (List.mem_append_left _ hm)
    -- the way to the place leads over the one above it
    have hfollow := h.1
    rw [follow_append] at hfollow
    rw [List.dropLast_concat]
    cases hfront : d.follow [] front with
    | error f =>
      rw [hfront] at hfollow
      cases hfollow
    | ok q =>
      obtain rfl : q = front := eq_append_of_follow hnames hfront
      exact ⟨hfront, hnames⟩

theorem Rooted.append (h : d.Rooted p) (hp : d.entry? p = some .directory) {n : String}
    (hn : Path.IsName n) : d.Rooted (p ++ [n]) := by
  refine ⟨?_, fun m hm => ?_⟩
  · rw [follow_append, h.1]
    change d.follow p [n] = _
    rw [follow_cons_of_directory hp, if_neg hn.step, if_neg hn.2.1]
    rfl
  · rcases List.mem_append.mp hm with hm | hm
    · exact h.2 m hm
    · rw [List.mem_singleton.mp hm]
      exact hn

/-- **Steps lead** from such a place to such a place. -/
theorem Rooted.follow (h : d.Rooted p) (hns : ∀ n ∈ ns, '/' ∉ n.toList)
    (hq : d.follow p ns = .ok q) : d.Rooted q := by
  induction ns generalizing p with
  | nil =>
    cases hq
    exact h
  | cons n ns ih =>
    rw [List.forall_mem_cons] at hns
    have hp := entry?_of_follow_cons hq
    rw [follow_cons_of_directory hp] at hq
    split_ifs at hq with hstay hup
    · exact ih h hns.2 hq
    · exact ih h.dropLast hns.2 hq
    · refine ih (h.append hp ⟨?_, hup, hns.1⟩) hns.2 hq
      rw [← not_isStep_iff, not_not] at hstay
      exact hstay

theorem Extends.rooted (hd : Extends d d') (h : d.Rooted p) : d'.Rooted p := ⟨hd.follow h.1, h.2⟩

theorem resolve_eq_ok_iff : d.resolve path = .ok p ↔
    path ≠ "" ∧ d.follow (d.start path) (Path.steps path) = .ok p := by
  rw [resolve]
  split
  · next h => simp [String.isEmpty_iff.mp h]
  · next h => simp [mt String.isEmpty_iff.mpr h]

theorem rooted_of_resolve (hhere : d.Rooted d.here) (h : d.resolve path = .ok p) : d.Rooted p := by
  have hstart : d.Rooted (d.start path) := by
    unfold start
    split
    · exact rooted_nil d
    · exact hhere
  exact hstart.follow (fun _ => Path.notMem_of_mem_steps) (resolve_eq_ok_iff.mp h).2

/-- Steps that lead nowhere can stand between the others. -/
theorem follow_of_filter (h : d.follow p (ns.filter Path.IsStep) = .ok q)
    (hq : d.entry? q = some .directory) : d.follow p ns = .ok q := by
  induction ns generalizing p with
  | nil => exact h
  | cons n ns ih =>
    by_cases hn : Path.IsStep n = true
    · rw [List.filter_cons_of_pos hn] at h
      have hp := entry?_of_follow_cons h
      rw [follow_cons_of_directory hp] at h ⊢
      split_ifs at h ⊢ <;> exact ih h
    · rw [List.filter_cons_of_neg hn] at h
      -- the next step that leads on asks for a directory here, and the end is one
      have hp : d.entry? p = some .directory := by
        cases hrest : ns.filter Path.IsStep with
        | nil =>
          rw [hrest] at h
          cases h
          exact hq
        | cons m ms =>
          rw [hrest] at h
          exact entry?_of_follow_cons h
      rw [follow_cons_of_directory hp, if_pos (not_isStep_iff.mp hn)]
      exact ih h

/-- **The path of a directory** leads there. -/
theorem Rooted.resolve_pathOf (h : d.Rooted p) (hp : d.entry? p = some .directory) :
    d.resolve (pathOf p) = .ok p := by
  refine resolve_eq_ok_iff.mpr ⟨Path.pathOf_ne_empty p, follow_of_filter ?_ hp⟩
  rw [start, if_pos (Path.isAbsolute_pathOf p), ← Path.way, Path.way_pathOf h.2]
  exact h.1

/-- **A path is that of its place** just when it is canonical. -/
theorem pathOf_eq_iff (hhere : d.Rooted d.here) (h : d.resolve path = .ok p) :
    pathOf p = path ↔ Path.IsCanonical path := by
  constructor
  · rintro rfl
    exact ⟨p, (rooted_of_resolve hhere h).2, rfl⟩
  · rintro ⟨q, hq, rfl⟩
    have hfollow := follow_filter (resolve_eq_ok_iff.mp h).2
    rw [start, if_pos (Path.isAbsolute_pathOf q), ← Path.way, Path.way_pathOf hq] at hfollow
    rw [eq_append_of_follow hq hfollow, List.nil_append]

/-! ## Tables in a directory -/

theorem start_joinPath (hname : Path.IsName name) (dir : String) :
    d.start (joinPath dir name) = d.start dir := by
  rw [start, start, Path.isAbsolute_joinPath hname]

theorem tablePlace_joinPath (hname : Path.IsName name) (h : d.resolve dir = .ok q) :
    d.tablePlace (d.start (joinPath dir name)) (Path.steps (joinPath dir name)) =
      d.tablePlace q [name] := by
  rw [tablePlace_filter, ← Path.way, Path.way_joinPath hname, start_joinPath hname]
  exact tablePlace_of_follow (follow_filter (resolve_eq_ok_iff.mp h).2) [name]

/-- **The directory of a table** is the one that the name of the table is joined to. -/
theorem housed_joinPath (hname : Path.IsName name) (h : dir = "" ∨ d.isDirectory dir = true) :
    d.Housed (joinPath dir name) := by
  intro above habove
  rcases h with rfl | h
  · rw [Path.joinPath_empty, hname.parent?] at habove
    cases habove
    exact Or.inl rfl
  · by_cases hempty : above = ""
    · exact Or.inl hempty
    · obtain ⟨hway, habs⟩ := Path.way_parent? habove
      rw [Path.way_joinPath hname, List.dropLast_concat] at hway
      rw [Path.isAbsolute_joinPath hname] at habs
      obtain ⟨q, hq, hdir⟩ := isDirectory_iff.mp h
      have hfollow := follow_filter (resolve_eq_ok_iff.mp hq).2
      rw [← Path.way, ← hway, start, ← habs, ← start] at hfollow
      exact Or.inr (isDirectory_iff.mpr
        ⟨q, resolve_eq_ok_iff.mpr ⟨hempty, follow_of_filter hfollow hdir⟩, hdir⟩)

/-- A table in a directory is there, whichever path leads to the directory. -/
theorem Holds.joinPath (h : d.Holds (joinPath dir name) p s) (hname : Path.IsName name)
    {dir' : String} (hfile : IsFile (joinPath dir name)) (hfile' : IsFile (joinPath dir' name))
    (hdir : d.resolve dir = .ok q) (hdir' : d.resolve dir' = .ok q)
    (hq : d.entry? q = some .directory) : d.Holds (Settings.joinPath dir' name) p s where
  housed := housed_joinPath hname (Or.inr (isDirectory_iff.mpr ⟨q, hdir', hq⟩))
  kept := by
    rw [hfile'.keptAt, tablePlace_joinPath hname hdir', ← tablePlace_joinPath hname hdir,
      ← hfile.keptAt, h.kept]
  entry := h.entry

end Disk

end PostingRules
