import PostingRules.CommandLine.Reader
import PostingRules.Proofs.Except
import Mathlib.Data.List.TakeWhile

/-!
# Options and their values

The value of an option is looked at when the argument behind it begins, and the arguments that follow
do not change it.

* `Progress.Took`: an option has been read with its value;
* `Took.settle`, `Took.step`, **`Took.read`**: it stays read, whatever follows;
* `Level.read_append`: a level is read from the left;
* `Leaf.HasOption`, **`Leaf.lookup_of_hasOption`**: the value of an option whose value may begin with a
  hyphen, wherever it stands.
-/

namespace PostingRules.CommandLine

variable {α : Type} {l : Level α} {s s' : Progress} {p q : Parameter} {v arg : String} {val : Value}
  {texts : List String}

/-! ## Options that have been read -/

/-- The option has been read with the text `v`, and its value is or will be `val`. -/
def Progress.Took (s : Progress) (p : Parameter) (v : String) (val : Value) : Prop :=
  s.pending = some (p, [v]) ∨ s.given.lookup p.name = some [val]

/-- An argument is given behind those that have been given. -/
theorem Progress.given_of_give (h : s.give q texts = .ok s') :
    (q.many = false → s.given.lookup q.name = none) ∧
      ∃ vs, texts.mapM q.read = .ok vs ∧ s'.given = s.given ++ [(q.name, vs)] := by
  unfold Progress.give at h
  split at h
  · cases h
  split at h
  · cases h
  next hfresh =>
  obtain ⟨vs, hvs, rfl⟩ := map_eq_ok_iff.mp h
  refine ⟨fun hmany => ?_, vs, hvs, rfl⟩
  rw [hmany, Bool.not_false, Bool.true_and, Given.has, Bool.not_eq_true,
    Option.isSome_eq_false_iff, Option.isNone_iff_eq_none] at hfresh
  exact hfresh

/-- An argument that is no flag and has not been given is given by texts that can be read. -/
theorem Progress.give_of_read {vs : List Value} (hne : texts ≠ [])
    (hfresh : s.given.lookup q.name = none) (hread : texts.mapM q.read = .ok vs) :
    s.give q texts = .ok { s with given := s.given ++ [(q.name, vs)] } := by
  rw [Progress.give, if_neg fun h => hne h.2, Given.has, hfresh, Option.isSome_none, Bool.and_false,
    if_neg Bool.false_ne_true, hread]
  rfl

theorem Progress.lookup_of_give {n : String} {vs : List Value} (hs : s.given.lookup n = some vs)
    (h : s.give q texts = .ok s') : s'.given.lookup n = some vs := by
  obtain ⟨-, ws, -, hgiven⟩ := given_of_give h
  rw [hgiven, List.lookup_append, hs, Option.some_or]

section Took

variable (hsingle : p.many = false) (hread : p.read v = .ok val)

include hsingle hread

theorem Progress.lookup_of_give_self (h : s.give p [v] = .ok s') :
    s'.given.lookup p.name = some [val] := by
  obtain ⟨hfresh, vs, hvs, hgiven⟩ := given_of_give h
  have hval : [v].mapM p.read = .ok [val] := by simp [hread]
  cases hvs.symm.trans hval
  rw [hgiven, List.lookup_append, hfresh hsingle]
  simp

/-- **When the next argument begins**, the option has its value. -/
theorem Progress.Took.settle (hs : s.Took p v val) (h : s.settle = .ok s') :
    s'.given.lookup p.name = some [val] := by
  unfold Progress.settle at h
  split at h
  · next hpending =>
    cases h
    exact hs.resolve_left (by simp [hpending])
  · next q texts hpending =>
    rcases hs with hs | hs
    · cases hpending.symm.trans hs
      exact lookup_of_give_self (s := { s with pending := none }) hsingle hread h
    · exact lookup_of_give (s := { s with pending := none }) hs h

variable (hname : p.isPosition = false)

include hname

theorem Progress.Took.place (hs : s.Took p v val) (h : s.place l arg = .ok s') :
    s'.Took p v val := by
  unfold Progress.place at h
  split at h
  · next r hr =>
    have hposition : r.isPosition = true :=
      (List.mem_filter.mp (List.mem_of_getElem? hr)).2
    dsimp only at h
    split at h
    · next q texts hpending =>
      split at h
      · next hsame =>
        -- only a place takes a further value, and the option is none
        rw [Bool.and_eq_true, decide_eq_true_eq] at hsame
        cases h
        refine .inr (hs.resolve_left fun hs => ?_)
        cases hpending.symm.trans hs
        rw [← hsame.2, hposition] at hname
        cases hname
      · obtain ⟨s₁, hsettle, rfl⟩ := map_eq_ok_iff.mp h
        have hgiven := hs.settle hsingle hread hsettle
        exact .inr hgiven
    · next hpending =>
      cases h
      exact .inr (hs.resolve_left (by simp [hpending]))
  · split at h <;> cases h

omit hname in
theorem Progress.Took.name {n : String} {value : Option String} (hs : s.Took p v val)
    (h : s.name l n value = .ok s') : s'.Took p v val := by
  unfold Progress.name at h
  split at h
  · cases h
  next q hq =>
  have hgive : ∀ {texts}, (s.settle.bind fun s => s.give q texts) = .ok s' → s'.Took p v val := by
    intro texts h
    obtain ⟨s₁, hsettle, hgive⟩ := bind_eq_ok_iff.mp h
    exact .inr (lookup_of_give (hs.settle hsingle hread hsettle) hgive)
  split at h
  · cases h
  · exact hgive h
  · exact hgive h
  · obtain ⟨s₁, hsettle, rfl⟩ := map_eq_ok_iff.mp h
    have hgiven := hs.settle hsingle hread hsettle
    exact .inr hgiven

theorem Progress.Took.step (hs : s.Took p v val) (h : s.step l arg = .ok s') :
    s'.Took p v val := by
  unfold Progress.step at h
  split at h
  · exact hs.place hsingle hread hname h
  split at h
  · next hwaiting =>
    -- the option that waits has no value yet, so it is another one
    have hgiven : s.given.lookup p.name = some [val] := by
      refine hs.resolve_left fun hs => ?_
      unfold Progress.waiting? at hwaiting
      rw [hs] at hwaiting
      cases hwaiting
    split at h
    · cases h
      exact .inr hgiven
    · split at h
      · exact hs.name hsingle hread h
      · cases h
      · cases h
        exact .inr hgiven
  · exact hs.place hsingle hread hname h
  · cases h
    exact hs
  · exact hs.name hsingle hread h
  · cases h

/-- **An option that has been read stays read**, whatever follows. -/
theorem Progress.Took.read {args : List String} {r : Option (α × List String)}
    (hs : s.Took p v val) (h : l.read s args = .ok (s', r)) : s'.Took p v val := by
  induction args generalizing s with
  | nil =>
    cases h
    exact hs
  | cons arg args ih =>
    rw [Level.read] at h
    split at h
    · cases h
      exact hs
    · split at h
      · cases h
      · next s₁ hstep => exact ih (hs.step hsingle hread hname hstep) h

end Took

/-! ## Where options stand -/

/-- **A level is read from the left.** -/
theorem Level.read_append {front : List String} (back : List String)
    (h : l.read s front = .ok (s', none)) : l.read s (front ++ back) = l.read s' back := by
  induction front generalizing s with
  | nil =>
    cases h
    rfl
  | cons arg front ih =>
    rw [Level.read] at h
    rw [List.cons_append, Level.read]
    split at h
    · cases h
    · split at h
      · cases h
      · next s₁ _ => exact ih h

theorem shape_option {name : String} (hne : name ≠ "") (hequals : '=' ∉ name.toList) :
    shape ("--" ++ name) = .long name none ∧
      ∀ v, shape ("--" ++ name ++ "=" ++ v) = .long name (some v) := by
  obtain ⟨cs, rfl⟩ : ∃ cs, name = String.ofList cs := ⟨name.toList, String.ofList_toList.symm⟩
  rw [String.toList_ofList] at hequals
  obtain ⟨c, cs, rfl⟩ : ∃ c cs', cs = c :: cs' := List.exists_cons_of_ne_nil (by simpa using hne)
  have hname : ∀ x ∈ c :: cs, (x != '=') = true := by
    intro x hx
    rw [bne_iff_ne]
    rintro rfl
    exact hequals hx
  refine ⟨?_, fun v => ?_⟩
  · have hchars : ("--" ++ String.ofList (c :: cs)).toList = '-' :: '-' :: c :: cs := by
      simp only [String.toList_append, String.toList_ofList]
      rfl
    unfold shape
    rw [hchars]
    change nameAndValue (c :: cs) = _
    rw [nameAndValue, List.dropWhile_eq_nil_iff.mpr hname]
  · have hchars : ("--" ++ String.ofList (c :: cs) ++ "=" ++ v).toList =
        '-' :: '-' :: c :: (cs ++ '=' :: v.toList) := by
      simp only [String.toList_append, String.toList_ofList, List.append_assoc]
      rfl
    unfold shape
    rw [hchars]
    change nameAndValue (c :: cs ++ '=' :: v.toList) = _
    rw [nameAndValue, List.dropWhile_append_of_pos hname, List.takeWhile_append_of_pos hname,
      List.dropWhile_cons_of_neg (by decide), List.takeWhile_cons_of_neg (by decide)]
    simp only [List.append_nil, String.ofList_toList]

theorem Progress.stopped_of_settle (h : s.settle = .ok s') : s'.stopped = s.stopped := by
  unfold Progress.settle at h
  split at h
  · cases h
    rfl
  · unfold Progress.give at h
    split at h
    · cases h
    split at h
    · cases h
    obtain ⟨vs, -, rfl⟩ := map_eq_ok_iff.mp h
    rfl

section

variable {args : List String} {name : String} {k : ValueKind} {r : Option (α × List String)}
  (hstopped : s.stopped = false) (hwaiting : s.waiting? = none)
  (hword : l.words.lookup arg = none) (hp : l.named? p.name = some p)
  (hform : p.form = .option k true)

include hstopped hwaiting hword hp hform

/-- **An option and its value in two arguments.** The value may begin with a hyphen. -/
theorem took_of_read_two (hshape : shape arg = .long p.name none)
    (h : l.read s (arg :: v :: args) = .ok (s', r)) : ∃ s₁ : Progress,
      s₁.Took p v val ∧ l.read s₁ args = .ok (s', r) := by
  have hstep : s.step l arg = s.settle.map fun s => { s with pending := some (p, []) } := by
    rw [Progress.step, hstopped, hwaiting, hshape]
    simp only [Bool.false_eq_true, if_false, Progress.name, hp, hform]
  rw [Level.read, hstopped, hwaiting, Option.isSome_none, Bool.or_false, if_neg Bool.false_ne_true,
    hword, hstep] at h
  dsimp only at h
  split at h
  · cases h
  next s₁ hname =>
  obtain ⟨s₀, hsettle, rfl⟩ := map_eq_ok_iff.mp hname
  have hopen : s₀.stopped = false := (Progress.stopped_of_settle hsettle).trans hstopped
  refine ⟨{ s₀ with pending := some (p, [v]) }, .inl rfl, ?_⟩
  simpa [Level.read, Progress.step, Progress.waiting?, hopen, Parameter.hyphens, hform] using h

/-- **An option and its value in one argument.** -/
theorem took_of_read_one (hshape : shape arg = .long p.name (some v)) (hread : p.read v = .ok val)
    (h : l.read s (arg :: args) = .ok (s', r)) : ∃ s₁ : Progress,
      s₁.Took p v val ∧ l.read s₁ args = .ok (s', r) := by
  have hstep : s.step l arg = s.settle.bind fun s => s.give p [v] := by
    rw [Progress.step, hstopped, hwaiting, hshape]
    simp only [Bool.false_eq_true, if_false, Progress.name, hp, hform]
  rw [Level.read, hstopped, hwaiting, Option.isSome_none, Bool.or_false, if_neg Bool.false_ne_true,
    hword, hstep] at h
  dsimp only at h
  split at h
  · cases h
  next s₁ hname =>
  obtain ⟨s₀, -, hgive⟩ := bind_eq_ok_iff.mp hname
  have hsingle : p.many = false := by simp [Parameter.many, hform]
  exact ⟨s₁, .inr (Progress.lookup_of_give_self hsingle hread hgive), h⟩

end

/-- The option of a command stands among the arguments with its value, in two arguments or in one. It
stands behind arguments that leave no option waiting for its value, and do not say that only values
follow. -/
def Leaf.HasOption (leaf : Leaf) (name v : String) (args : List String) : Prop :=
  ∃ front back, ∃ s : Progress, leaf.level.read {} front = .ok (s, none) ∧ s.stopped = false ∧
    s.waiting? = none ∧ (args = front ++ ("--" ++ name) :: v :: back ∨
      args = front ++ ("--" ++ name ++ "=" ++ v) :: back)

/-- **The value of an option** is what its text is read as, whatever stands in front of it and behind
it. -/
theorem Leaf.lookup_of_hasOption {leaf : Leaf} {args : List String} {k : ValueKind} {g : Given}
    {c : Command} (hargs : leaf.HasOption p.name v args) (hne : p.name ≠ "")
    (hequals : '=' ∉ p.name.toList) (hp : leaf.level.named? p.name = some p)
    (hform : p.form = .option k true) (hread : p.read v = .ok val)
    (h : leaf.read args = .ok (g, c)) :
    g.lookup p.name = some [val] ∧ leaf.command? g = some c := by
  obtain ⟨front, back, s, hfront, hstopped, hwaiting, hargs⟩ := hargs
  obtain ⟨hname, hvalue⟩ := shape_option hne hequals
  obtain ⟨⟨s', word⟩, hlevel, hrest⟩ := bind_eq_ok_iff.mp h
  obtain ⟨g', hfinish, hcommand⟩ := bind_eq_ok_iff.mp hrest
  obtain ⟨s₂, hsettle, rfl⟩ := map_eq_ok_iff.mp hfinish
  have hsingle : p.many = false := by simp [Parameter.many, hform]
  have hposition : p.isPosition = false := by simp [Parameter.isPosition, hform]
  obtain ⟨s₁, htook, hback⟩ : ∃ s₁ : Progress, s₁.Took p v val ∧
      leaf.level.read s₁ back = .ok (s', word) := by
    rcases hargs with rfl | rfl
    · rw [Level.read_append _ hfront] at hlevel
      exact took_of_read_two hstopped hwaiting rfl hp hform hname hlevel
    · rw [Level.read_append _ hfront] at hlevel
      exact took_of_read_one hstopped hwaiting rfl hp hform (hvalue v) hread hlevel
  have hgiven := (htook.read hsingle hread hposition hback).settle hsingle hread hsettle
  split at hcommand
  · next hc =>
    cases hcommand
    exact ⟨hgiven, hc⟩
  · cases hcommand

end PostingRules.CommandLine
