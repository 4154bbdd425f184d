import PostingRules.Proofs.Csv.Writing

/-!
# Where records stand

* `Stretch`: the bytes of a record, the line ends in front of it, and its fields;
* `Opens`: the bytes of a record as far as they have been read;
* `Lays`, **`LaysOut`**: how an input is divided into its records;
* `step_moveTo`: what is read does not depend on the places;
* `Stands`, `Stands.step_none`, `Stands.step_some`: where the reader stands, and one byte;
* **`exists_laysOut`**: the records that are read are those the input is divided into, and each starts
  in the line in which the one before it ended;
* **`LaysOut.unique`**: an input is divided in one way.
-/

namespace PostingRules.Csv

/-! ## Stretches -/

/-- Where a record stands in an input: the bytes up to the end of the record before it, the line ends
behind them that hold no record, its own bytes with the one that ends it, and its fields. -/
structure Stretch where
  before : List UInt8
  skipped : List UInt8
  own : List UInt8
  fields : List (List UInt8)
  deriving DecidableEq, Repr

/-- The line in which some bytes end. -/
def lineBehind (bytes : List UInt8) : Nat := 1 + bytes.count 10

/-- **The line of the first byte of the record.** -/
def Stretch.firstLine (st : Stretch) : Nat := lineBehind (st.before ++ st.skipped)

/-- The bytes up to the end of the record. -/
def Stretch.upTo (st : Stretch) : List UInt8 := st.before ++ st.skipped ++ st.own

/-- All bytes end records. -/
def OnlyEnds (bytes : List UInt8) : Prop := ∀ b ∈ bytes, isEnd b = true

/-- The bytes begin a record, and read on their own they leave the reader at `s` inside it. -/
structure Opens (delimiter : UInt8) (own : List UInt8) (s : Progress) : Prop where
  first : ∃ b ∈ own.head?, isEnd b = false
  passes : Passes delimiter {} own s

/-- Behind `before` the bytes are divided into these records. -/
inductive Lays (delimiter : UInt8) : List UInt8 → List UInt8 → List Stretch → Prop
  /-- Line ends hold no record. -/
  | nothing {before skipped} : OnlyEnds skipped → Lays delimiter before skipped []
  /-- The last record is ended by the end of the input. -/
  | last {before skipped own s} : OnlyEnds skipped → Opens delimiter own s →
    Lays delimiter before (skipped ++ own) [⟨before, skipped, own, s.raw.fields⟩]
  /-- A record is ended by the first byte that does so. -/
  | record {before skipped own s e s' r rest stretches} : OnlyEnds skipped →
    Opens delimiter own s → s.step delimiter e = (s', some r) →
    Lays delimiter (before ++ skipped ++ (own ++ [e])) rest stretches →
    Lays delimiter before (skipped ++ (own ++ [e]) ++ rest)
      (⟨before, skipped, own ++ [e], r.fields⟩ :: stretches)

/-- The byte order mark. -/
def byteOrderMark : List UInt8 := [0xEF, 0xBB, 0xBF]

/-- **An input is divided into these records.** A byte order mark stands in front of the first. -/
inductive LaysOut (delimiter : UInt8) : List UInt8 → List Stretch → Prop
  | marked {rest stretches} : Lays delimiter byteOrderMark rest stretches →
    LaysOut delimiter (byteOrderMark ++ rest) stretches
  | unmarked {bytes stretches} : ¬ byteOrderMark <+: bytes → Lays delimiter [] bytes stretches →
    LaysOut delimiter bytes stretches

variable {delimiter b : UInt8} {before skipped own rest bytes : List UInt8}
  {s s' t t' : Progress} {r : Raw} {p q : Place} {stretches : List Stretch}

theorem lineBehind_next (hq : q.line = lineBehind bytes) (b : UInt8) :
    (q.next b).line = lineBehind (bytes ++ [b]) := by
  rw [Place.next, hq, lineBehind, lineBehind, List.count_append, List.count_singleton]
  by_cases hb : b = 10
  · simp [hb, Nat.add_assoc]
  · simp [hb]

/-- The own bytes of a record begin behind as many line feeds as its line says, and those that have
been skipped. -/
theorem Stretch.firstLine_eq (st : Stretch) :
    st.firstLine = lineBehind st.before + st.skipped.count 10 := by
  rw [Stretch.firstLine, lineBehind, lineBehind, List.count_append, Nat.add_assoc]

/-- Each record stands behind the bytes in front of it. -/
theorem Lays.upTo_prefix (h : Lays delimiter before rest stretches) :
    ∀ st ∈ stretches, st.upTo <+: before ++ rest := by
  induction h with
  | nothing => exact nofun
  | @last before skipped own s =>
    rw [← List.append_assoc, List.forall_mem_singleton]
    exact List.prefix_rfl
  | @record before skipped own s e s' r rest stretches _ _ _ _ ih =>
    have hall : before ++ (skipped ++ (own ++ [e]) ++ rest) =
        before ++ skipped ++ (own ++ [e]) ++ rest := by simp only [List.append_assoc]
    rw [hall, List.forall_mem_cons]
    exact ⟨List.prefix_append _ rest, ih⟩

theorem LaysOut.upTo_prefix (h : LaysOut delimiter bytes stretches) :
    ∀ st ∈ stretches, st.upTo <+: bytes := by
  cases h with
  | marked hlays => exact hlays.upTo_prefix
  | unmarked _ hlays => exact hlays.upTo_prefix

/-! ## Places -/

/-- The progress with other places. -/
def Progress.moveTo (s : Progress) (p q : Place) : Progress := { s with start := p, here := q }

/-- What one byte gives, with other places: a record that ends takes its start with it, and the next
one starts where it ends. -/
def moveOutcome (p q : Place) : Progress × Option Raw → Progress × Option Raw
  | (s, none) => (s.moveTo p q, none)
  | (s, some r) => (s.moveTo q q, some { r with start := p })

theorem stepPlain_moveTo (delimiter : UInt8) (s : Progress) (p q : Place) (b : UInt8) :
    (s.moveTo p q).stepPlain delimiter b = moveOutcome p q (s.stepPlain delimiter b) := by
  unfold Progress.stepPlain
  split_ifs <;> rfl

theorem stepField_moveTo (delimiter : UInt8) (s : Progress) (p q : Place) (b : UInt8) :
    (s.moveTo p q).stepField delimiter b = moveOutcome p q (s.stepField delimiter b) := by
  unfold Progress.stepField
  split_ifs
  · rfl
  · exact stepPlain_moveTo delimiter s p q b

theorem stepRecord_moveTo (delimiter : UInt8) (s : Progress) (p q : Place) (b : UInt8) :
    (s.moveTo p q).stepRecord delimiter b = moveOutcome p q (s.stepRecord delimiter b) := by
  unfold Progress.stepRecord
  split_ifs
  · rfl
  · exact stepField_moveTo delimiter s p q b

/-- **What is read does not depend on the places.** -/
theorem step_moveTo (delimiter : UInt8) (s : Progress) (p q : Place) (b : UInt8) :
    (s.moveTo p q).step delimiter b = moveOutcome p (q.next b) (s.step delimiter b) := by
  unfold Progress.step
  cases hp : s.phase with
  | record =>
    simp only [Progress.moveTo, hp]
    exact stepRecord_moveTo delimiter (s.moved b) p (q.next b) b
  | afterReturn =>
    simp only [Progress.moveTo, hp]
    split_ifs
    · rfl
    · exact stepRecord_moveTo delimiter (s.moved b) p (q.next b) b
  | field =>
    simp only [Progress.moveTo, hp]
    exact stepField_moveTo delimiter (s.moved b) p (q.next b) b
  | plain =>
    simp only [Progress.moveTo, hp]
    exact stepPlain_moveTo delimiter (s.moved b) p (q.next b) b
  | quoted =>
    simp only [Progress.moveTo, hp]
    split_ifs <;> rfl
  | quote =>
    simp only [Progress.moveTo, hp]
    split_ifs
    · rfl
    · exact stepPlain_moveTo delimiter (s.moved b) p (q.next b) b

/-- As long as no record ends, its start stays and the reader moves on by the byte. -/
theorem places_of_step_none (h : s.step delimiter b = (s', none)) :
    s'.start = s.start ∧ s'.here = s.here.next b := by
  have hmove := step_moveTo delimiter s s.start s.here b
  rw [h] at hmove
  have hs' : s' = s'.moveTo s.start (s.here.next b) := congrArg Prod.fst (h.symm.trans hmove)
  rw [hs']
  exact ⟨rfl, rfl⟩

/-- The next record starts behind the byte that ended the one before it. -/
theorem places_of_step_some (h : s.step delimiter b = (s', some r)) :
    r.start = s.start ∧ s'.start = s.here.next b ∧ s'.here = s.here.next b := by
  have hmove := h.symm.trans (step_moveTo delimiter s s.start s.here b)
  rw [h, moveOutcome, Prod.mk.injEq, Option.some.injEq] at hmove
  obtain ⟨hs', hr⟩ := hmove
  rw [hs', hr]
  exact ⟨rfl, rfl, rfl⟩

/-! ## Inside a record -/

/-- The reader stands inside a record. -/
def Progress.Inside (s : Progress) : Prop := s.phase ≠ .record ∧ s.phase ≠ .afterReturn

/-- The reader stands inside a record, or between records if one has ended. -/
def GoesOn : Progress × Option Raw → Prop
  | (s, none) => s.Inside
  | (s, some _) => s.Rests

theorem goesOn_stepPlain (delimiter : UInt8) (s : Progress) (b : UInt8) :
    GoesOn (s.stepPlain delimiter b) := by
  unfold Progress.stepPlain
  split_ifs
  · exact ⟨nofun, nofun⟩
  · refine ⟨?_, rfl, rfl⟩
    unfold Progress.afterEnd
    dsimp only
    split_ifs
    · exact .inr rfl
    · exact .inl rfl
  · exact ⟨nofun, nofun⟩

theorem goesOn_stepField (delimiter : UInt8) (s : Progress) (b : UInt8) :
    GoesOn (s.stepField delimiter b) := by
  unfold Progress.stepField
  split_ifs
  · exact ⟨nofun, nofun⟩
  · exact goesOn_stepPlain delimiter s b

/-- A byte inside a record leaves the reader inside it or ends it. -/
theorem goesOn_step (h : s.Inside) (delimiter b : UInt8) : GoesOn (s.step delimiter b) := by
  unfold Progress.step
  cases hp : s.phase with
  | record => exact absurd hp h.1
  | afterReturn => exact absurd hp h.2
  | field => exact goesOn_stepField delimiter (s.moved b) b
  | plain => exact goesOn_stepPlain delimiter (s.moved b) b
  | quoted =>
    dsimp only
    split_ifs
    · exact ⟨nofun, nofun⟩
    · exact ⟨nofun, nofun⟩
  | quote =>
    dsimp only
    split_ifs
    · exact ⟨nofun, nofun⟩
    · exact goesOn_stepPlain delimiter (s.moved b) b

theorem Passes.inside (h : Passes delimiter s bytes s') (hs : s.Inside) : s'.Inside := by
  induction h with
  | nil => exact hs
  | @cons s s' s'' b _ hstep _ ih =>
    have hgoes := goesOn_step hs delimiter b
    rw [hstep] at hgoes
    exact ih hgoes

theorem Progress.Inside.last_eq (h : s.Inside) : s.last = [s.raw] := by
  unfold Progress.last
  split
  · next hp => exact absurd hp h.1
  · next hp => exact absurd hp h.2
  · rfl

/-! ## Between records -/

theorem rests_fresh : ({} : Progress).Rests := ⟨.inl rfl, rfl, rfl⟩

theorem Progress.Rests.last_eq (h : s.Rests) : s.last = [] := by
  unfold Progress.last
  rcases h.1 with hp | hp
  all_goals rw [hp]

/-- Between records a line end is passed over. -/
theorem exists_step_of_rests (h : s.Rests) (hb : isEnd b = true) (delimiter : UInt8) :
    ∃ s', s.step delimiter b = (s', none) ∧ s'.Rests := by
  refine ⟨{ s.moved b with phase := .record }, ?_, .inl rfl, h.2⟩
  rcases h.1 with hp | hp
  all_goals simp [Progress.step, hp, Progress.stepRecord, hb, Progress.moved]

theorem step_of_rests (h : s.Rests) (hb : isEnd b = false) (delimiter : UInt8) :
    s.step delimiter b = (s.moved b).stepField delimiter b := by
  have hne : b ≠ 10 := by
    rintro rfl
    cases hb
  rcases h.1 with hp | hp
  all_goals simp [Progress.step, hp, hne, Progress.stepRecord, hb, Progress.moved]

/-- Between records any other byte begins one, as if it were the first of an input. -/
theorem exists_opens_of_rests (h : s.Rests) (hb : isEnd b = false) (delimiter : UInt8) :
    ∃ t, Opens delimiter [b] t ∧
      s.step delimiter b = (t.moveTo s.start (s.here.next b), none) := by
  have hmove : (s.moved b).stepField delimiter b = moveOutcome s.start (s.here.next b)
      ((({} : Progress).moved b).stepField delimiter b) := by
    obtain ⟨start, here, phase, fields, bytes⟩ := s
    obtain ⟨-, rfl, rfl⟩ := h
    unfold Progress.stepField Progress.stepPlain
    split_ifs <;> rfl
  have hnone : ∃ t, (({} : Progress).moved b).stepField delimiter b = (t, none) := by
    unfold Progress.stepField Progress.stepPlain
    split_ifs with _ _ hend
    · exact ⟨_, rfl⟩
    · exact ⟨_, rfl⟩
    · rw [hb] at hend
      cases hend
    · exact ⟨_, rfl⟩
  obtain ⟨t, ht⟩ := hnone
  refine ⟨t, ⟨⟨b, rfl, hb⟩, passes_step ?_⟩, ?_⟩
  · rw [step_of_rests rests_fresh hb, ht]
  · rw [step_of_rests h hb, hmove, ht]
    rfl

/-! ## The bytes of a record -/

theorem Opens.inside (h : Opens delimiter own s) : s.Inside := by
  obtain ⟨c, hc, hend⟩ := h.first
  cases h.passes with
  | nil => cases hc
  | cons hstep hpasses =>
    cases hc
    have hgoes := goesOn_stepField delimiter (({} : Progress).moved c) c
    rw [← step_of_rests rests_fresh hend, hstep] at hgoes
    exact hpasses.inside hgoes

theorem Opens.snoc (h : Opens delimiter own s) (hstep : s.step delimiter b = (s', none)) :
    Opens delimiter (own ++ [b]) s' := by
  refine ⟨?_, h.passes.append (passes_step hstep)⟩
  obtain ⟨c, hc, hend⟩ := h.first
  refine ⟨c, ?_, hend⟩
  rw [List.head?_append, hc]
  rfl

/-! ## Where the reader stands -/

/-- Where the reader stands in an input: behind the own bytes of a record so far, the line ends in
front of it and the bytes up to the end of the record before it. -/
structure Stands (delimiter : UInt8) (before skipped own : List UInt8) (s : Progress) : Prop where
  ends : OnlyEnds skipped
  start : s.start.line = lineBehind before
  here : s.here.line = lineBehind (before ++ skipped ++ own)
  progress : own = [] ∧ s.Rests ∨ ∃ t, Opens delimiter own t ∧ s = t.moveTo s.start s.here

theorem stands_of_rests (h : s.Rests) (hstart : s.start.line = lineBehind before)
    (hhere : s.here.line = lineBehind before) : Stands delimiter before [] [] s :=
  ⟨nofun, hstart, by simpa using hhere, .inl ⟨rfl, h⟩⟩

/-- A byte that ends no record is one more line end in front of it or one more of its own bytes. -/
theorem Stands.step_none (h : Stands delimiter before skipped own s)
    (hstep : s.step delimiter b = (s', none)) :
    ∃ skipped' own', skipped' ++ own' = skipped ++ own ++ [b] ∧
      Stands delimiter before skipped' own' s' := by
  obtain ⟨hends, hstart, hhere, hprogress⟩ := h
  obtain ⟨hstart', hhere'⟩ := places_of_step_none hstep
  have hline : s'.here.line = lineBehind (before ++ skipped ++ own ++ [b]) := by
    rw [hhere', lineBehind_next hhere]
  rw [← hstart'] at hstart
  rcases hprogress with ⟨rfl, hrests⟩ | ⟨t, hopens, hs⟩
  · rw [List.append_nil] at hline ⊢
    cases hb : isEnd b with
    | true =>
      obtain ⟨s₁, hstep₁, hrests₁⟩ := exists_step_of_rests hrests hb delimiter
      cases hstep.symm.trans hstep₁
      refine ⟨skipped ++ [b], [], List.append_nil _, ?_, hstart, ?_, .inl ⟨rfl, hrests₁⟩⟩
      · exact List.forall_mem_append.mpr ⟨hends, List.forall_mem_singleton.mpr hb⟩
      · rwa [List.append_nil, ← List.append_assoc]
    | false =>
      obtain ⟨t, hopens, hstep₁⟩ := exists_opens_of_rests hrests hb delimiter
      cases hstep.symm.trans hstep₁
      exact ⟨skipped, [b], rfl, hends, hstart, hline, .inr ⟨t, hopens, rfl⟩⟩
  · rw [hs, step_moveTo] at hstep
    cases ht : t.step delimiter b with
    | mk t' out =>
      rw [ht] at hstep
      cases out with
      | some r => cases hstep
      | none =>
        cases hstep
        refine ⟨skipped, own ++ [b], (List.append_assoc ..).symm, hends, hstart, ?_,
          .inr ⟨t', hopens.snoc ht, rfl⟩⟩
        rwa [← List.append_assoc]

/-- A byte that ends a record ends its own bytes, and the reader stands behind it. -/
theorem Stands.step_some (h : Stands delimiter before skipped own s)
    (hstep : s.step delimiter b = (s', some r)) :
    (∃ t t' r', Opens delimiter own t ∧ t.step delimiter b = (t', some r') ∧
      r.fields = r'.fields) ∧ r.start = s.start ∧
      Stands delimiter (before ++ skipped ++ (own ++ [b])) [] [] s' := by
  obtain ⟨hends, hstart, hhere, hprogress⟩ := h
  obtain ⟨hr, hstart', hhere'⟩ := places_of_step_some hstep
  have hline : (s.here.next b).line = lineBehind (before ++ skipped ++ (own ++ [b])) := by
    rw [lineBehind_next hhere, List.append_assoc _ own]
  rcases hprogress with ⟨rfl, hrests⟩ | ⟨t, hopens, hs⟩
  · -- between records no byte ends one
    cases hb : isEnd b with
    | true =>
      obtain ⟨s₁, hstep₁, -⟩ := exists_step_of_rests hrests hb delimiter
      cases hstep.symm.trans hstep₁
    | false =>
      obtain ⟨t, -, hstep₁⟩ := exists_opens_of_rests hrests hb delimiter
      cases hstep.symm.trans hstep₁
  · rw [hs, step_moveTo] at hstep
    have hgoes := goesOn_step hopens.inside delimiter b
    cases ht : t.step delimiter b with
    | mk t' out =>
      rw [ht] at hstep hgoes
      cases out with
      | none => cases hstep
      | some r' =>
        cases hstep
        refine ⟨⟨t, t', r', hopens, ht, rfl⟩, hr, stands_of_rests hgoes ?_ ?_⟩
        · rw [hstart', hline]
        · rw [hhere', hline]

/-! ## All records -/

/-- The record is that of the stretch, and starts in the line in which the one before it ended. -/
structure Raw.StandsIn (r : Raw) (st : Stretch) : Prop where
  fields : r.fields = st.fields
  line : r.start.line = lineBehind st.before

theorem Stands.exists_lays (h : Stands delimiter before skipped own s) (bytes : List UInt8) :
    ∃ stretches, Lays delimiter before (skipped ++ own ++ bytes) stretches ∧
      List.Forall₂ Raw.StandsIn (readFrom delimiter s bytes) stretches := by
  induction bytes generalizing before skipped own s with
  | nil =>
    rw [List.append_nil, readFrom]
    rcases h.progress with ⟨rfl, hrests⟩ | ⟨t, hopens, hs⟩
    · rw [hrests.last_eq, List.append_nil]
      exact ⟨[], .nothing h.ends, .nil⟩
    · have hinside : s.Inside := by
        rw [hs]
        exact hopens.inside
      rw [hinside.last_eq]
      refine ⟨_, .last h.ends hopens, .cons ⟨?_, h.start⟩ .nil⟩
      rw [hs]
      rfl
  | cons b bytes ih =>
    rw [readFrom]
    cases hstep : s.step delimiter b with
    | mk s' out =>
      cases out with
      | none =>
        obtain ⟨skipped', own', hbytes, hstands⟩ := h.step_none hstep
        obtain ⟨stretches, hlays, hreads⟩ := ih hstands
        refine ⟨stretches, ?_, hreads⟩
        rwa [hbytes, List.append_assoc _ [b]] at hlays
      | some r =>
        obtain ⟨⟨t, t', r', hopens, ht, hfields⟩, hr, hstands⟩ := h.step_some hstep
        obtain ⟨stretches, hlays, hreads⟩ := ih hstands
        refine ⟨⟨before, skipped, own ++ [b], r'.fields⟩ :: stretches, ?_,
          .cons ⟨hfields, ?_⟩ hreads⟩
        · have hrecord := Lays.record h.ends hopens ht hlays
          simpa only [List.append_assoc, List.singleton_append, List.nil_append] using hrecord
        · rw [hr, h.start]

/-- **The records that are read** are those the input is divided into, each with the line in which the
record before it ended. -/
theorem exists_laysOut (delimiter : UInt8) (bytes : List UInt8) :
    ∃ stretches, LaysOut delimiter bytes stretches ∧
      List.Forall₂ Raw.StandsIn (readRaw delimiter bytes) stretches := by
  unfold readRaw
  split
  · next rest =>
    have hstands : Stands delimiter byteOrderMark [] [] { here := ⟨3, 1⟩ } :=
      stands_of_rests ⟨.inl rfl, rfl, rfl⟩ rfl rfl
    obtain ⟨stretches, hlays, hreads⟩ := hstands.exists_lays rest
    exact ⟨stretches, .marked hlays, hreads⟩
  · next hmark =>
    have hstands : Stands delimiter [] [] [] {} := stands_of_rests rests_fresh rfl rfl
    obtain ⟨stretches, hlays, hreads⟩ := hstands.exists_lays bytes
    refine ⟨stretches, .unmarked ?_ hlays, hreads⟩
    rintro ⟨rest, hrest⟩
    exact hmark rest hrest.symm

/-! ## The division is unique -/

theorem Passes.unique (h : Passes delimiter s bytes t) (h' : Passes delimiter s bytes t') :
    t = t' := by
  induction h with
  | nil =>
    cases h'
    rfl
  | cons hstep _ ih =>
    cases h' with
    | cons hstep' hpasses' =>
      cases hstep.symm.trans hstep'
      exact ih hpasses'

/-- What is passed goes no further than to the byte that ends the record. -/
theorem Passes.prefix_of_step {e : UInt8} {own' rest' : List UInt8}
    (h : Passes delimiter s own t) (hstep : t.step delimiter e = (s', some r))
    (h' : Passes delimiter s own' t') (heq : own ++ e :: rest = own' ++ rest') : own' <+: own := by
  induction h generalizing own' with
  | nil =>
    cases h' with
    | nil => exact List.prefix_rfl
    | cons hstep' _ =>
      rw [List.nil_append, List.cons_append, List.cons.injEq] at heq
      obtain ⟨rfl, -⟩ := heq
      cases hstep.symm.trans hstep'
  | cons hstep₁ _ ih =>
    cases h' with
    | nil => exact List.nil_prefix
    | cons hstep₁' hpasses' =>
      rw [List.cons_append, List.cons_append, List.cons.injEq] at heq
      obtain ⟨rfl, heq⟩ := heq
      cases hstep₁.symm.trans hstep₁'
      exact List.cons_prefix_cons.mpr ⟨rfl, ih hstep hpasses' heq⟩

/-- The bytes of a record hold no byte that ends it. -/
theorem Opens.ne_append {e : UInt8} {own' : List UInt8} (h : Opens delimiter own t)
    (hstep : t.step delimiter e = (s', some r)) (h' : Opens delimiter own' t') :
    own ++ e :: rest ≠ own' := by
  intro heq
  have hprefix : own' <+: own :=
    h.passes.prefix_of_step hstep h'.passes (heq.trans (List.append_nil own').symm)
  have hlength := hprefix.length_le
  rw [← heq, List.length_append, List.length_cons] at hlength
  omega

theorem Opens.not_onlyEnds (h : Opens delimiter own s) (skipped rest : List UInt8) :
    ¬ OnlyEnds (skipped ++ (own ++ rest)) := by
  intro hends
  obtain ⟨c, hc, hend⟩ := h.first
  have hmem : c ∈ skipped ++ (own ++ rest) :=
    List.mem_append_right _ (List.mem_append_left _ (List.mem_of_mem_head? hc))
  rw [hends c hmem] at hend
  cases hend

/-- The line ends in front of a record are all those that the bytes begin with. -/
theorem Opens.takeWhile_isEnd (h : Opens delimiter own s) (hends : OnlyEnds skipped)
    (rest : List UInt8) : (skipped ++ (own ++ rest)).takeWhile isEnd = skipped := by
  obtain ⟨c, hc, hend⟩ := h.first
  cases own with
  | nil => cases hc
  | cons b own =>
    cases hc
    rw [List.takeWhile_append_of_pos hends, List.cons_append, List.takeWhile_cons, hend]
    exact List.append_nil skipped

theorem Opens.skipped_unique {skipped' own' : List UInt8} (h : Opens delimiter own s)
    (hends : OnlyEnds skipped) (h' : Opens delimiter own' s') (hends' : OnlyEnds skipped')
    (rest rest' : List UInt8) (heq : skipped ++ (own ++ rest) = skipped' ++ (own' ++ rest')) :
    skipped = skipped' ∧ own ++ rest = own' ++ rest' := by
  have hskipped : skipped = skipped' := by
    rw [← h.takeWhile_isEnd hends rest, heq, h'.takeWhile_isEnd hends' rest']
  subst hskipped
  exact ⟨rfl, List.append_cancel_left heq⟩

theorem Lays.unique_of_eq {before' bytes' : List UInt8} {stretches' : List Stretch}
    (h : Lays delimiter before bytes stretches) (h' : Lays delimiter before' bytes' stretches')
    (hbefore : before = before') (heq : bytes = bytes') : stretches = stretches' := by
  induction h generalizing before' bytes' stretches' with
  | nothing hends =>
    subst heq
    cases h' with
    | nothing => rfl
    | @last _ skipped' own' _ _ hopens' =>
      exact absurd (by simpa using hends) (hopens'.not_onlyEnds skipped' [])
    | @record _ skipped' own' _ e' _ _ rest' _ _ hopens' _ _ =>
      exact absurd (by simpa using hends) (hopens'.not_onlyEnds skipped' (e' :: rest'))
  | @last before skipped own s hends hopens =>
    subst hbefore
    cases h' with
    | nothing hends' =>
      rw [← heq] at hends'
      exact absurd (by simpa using hends') (hopens.not_onlyEnds skipped [])
    | @last _ skipped' own' s' hends' hopens' =>
      obtain ⟨rfl, hown⟩ :=
        hopens.skipped_unique hends hopens' hends' [] [] (by simpa using heq)
      obtain rfl : own = own' := by simpa using hown
      rw [hopens.passes.unique hopens'.passes]
    | @record _ skipped' own' _ e' _ _ rest' _ hends' hopens' hstep' _ =>
      obtain ⟨rfl, hown⟩ := hopens.skipped_unique hends hopens' hends' [] (e' :: rest')
        (by simpa using heq)
      exact absurd (by simpa using hown.symm) (hopens'.ne_append hstep' hopens)
  | @record before skipped own s e _ r rest stretches hends hopens hstep _ ih =>
    subst hbefore
    cases h' with
    | nothing hends' =>
      rw [← heq] at hends'
      exact absurd (by simpa using hends') (hopens.not_onlyEnds skipped (e :: rest))
    | @last _ skipped' own' _ hends' hopens' =>
      obtain ⟨rfl, hown⟩ := hopens.skipped_unique hends hopens' hends' (e :: rest) []
        (by simpa using heq)
      exact absurd (by simpa using hown) (hopens.ne_append hstep hopens')
    | @record _ skipped' own' _ e' _ _ rest' _ hends' hopens' hstep' hlays' =>
      obtain ⟨rfl, hown⟩ := hopens.skipped_unique hends hopens' hends' (e :: rest)
        (e' :: rest') (by simpa using heq)
      have hprefix := hopens.passes.prefix_of_step hstep hopens'.passes hown
      have hprefix' := hopens'.passes.prefix_of_step hstep' hopens.passes hown.symm
      obtain rfl : own = own' :=
        hprefix'.eq_of_length (Nat.le_antisymm hprefix'.length_le hprefix.length_le)
      obtain ⟨rfl, rfl⟩ := List.cons.inj (List.append_cancel_left hown)
      rw [hopens.passes.unique hopens'.passes] at hstep
      cases hstep.symm.trans hstep'
      rw [ih hlays' rfl rfl]

/-- **There is one division** into records. -/
theorem LaysOut.unique {stretches' : List Stretch} (h : LaysOut delimiter bytes stretches)
    (h' : LaysOut delimiter bytes stretches') : stretches = stretches' := by
  cases h with
  | @marked rest _ hlays =>
    generalize hbytes : byteOrderMark ++ rest = bytes at h'
    cases h' with
    | marked hlays' => exact hlays.unique_of_eq hlays' rfl (List.append_cancel_left hbytes)
    | unmarked hmark _ => exact absurd ⟨rest, hbytes⟩ hmark
  | unmarked hmark hlays =>
    cases h' with
    | marked _ => exact absurd (List.prefix_append ..) hmark
    | unmarked _ hlays' => exact hlays.unique_of_eq hlays' rfl rfl

end PostingRules.Csv
