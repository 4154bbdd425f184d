import PostingRules.Proofs.Pattern.Classes
import PostingRules.Proofs.Pattern.Counts
import PostingRules.Proofs.Pattern.Screening

/-!
# What the screening promises

The screening cuts a pattern into tokens and never reads it. On plain patterns the reader cuts at the
same places, piece by piece, and what it has read up to there is no worse than what the screening
knows.

* `Holds`: the groups that are open, for the reader and for the screening;
* `LastAgrees`: the part that a quantifier would repeat, and what the screening has before it;
* `Agrees`: both; `step_agrees`: a piece of the pattern;
* **`tame_of_isSafe`**: a plain pattern that is not refused repeats only what may be repeated.
-/

namespace PostingRules.PatternReader

open PostingRules.Guard PostingRules.Pattern

/-! ## What both know -/

/-- The levels around the place that is read are tame, and have no repetition where the screening
saw none. -/
inductive Holds : Level → List Open → List Group → Prop
  | outermost {l} : l.Forall Tame → Holds l [] []
  | inside {l o os g gs} :
    l.Forall Tame → (g.repeats = false → l.Forall NoMany) →
    (o.capturing = false → g.nonCapturing = true) → o.flags.verbose = false →
    Holds o.level os gs → Holds l (o :: os) (g :: gs)

/-- The screening knows of the last part what forbids to repeat it. -/
def LastAgrees (b : Before) (cs : List Char) : Pattern → Prop
  | .repeats _ _ => b = .lazyMark ∨ b = .quantifier ∧ cs.head? ≠ some '?'
  | .group capturing p => ∃ g, b = .closing g ∧ (capturing = false → g.nonCapturing = true) ∧
    (g.repeats = false → p.NoMany)
  | .empty | .set _ | .look _ | .seq _ _ | .alt _ _ => True

/-- **The reader and the screening agree** before the rest of a pattern. -/
structure Agrees (s : Progress) (g : Shape) (cs : List Char) : Prop where
  verbose : s.flags.verbose = false
  levels : Holds s.level s.around g.groups
  last : ∀ p parts, s.level.parts = some p :: parts → LastAgrees g.before cs p

variable {l l' : Level} {os : List Open} {gs : List Group} {s s' : Progress} {g g' : Shape}
  {cs rest : List Char}

theorem Holds.mono (h : Holds l os gs) (ht : l.Forall Tame → l'.Forall Tame)
    (hm : l.Forall NoMany → l'.Forall NoMany) : Holds l' os gs := by
  cases h with
  | outermost hl => exact .outermost (ht hl)
  | inside hl hn hc hf ho => exact .inside (ht hl) (fun hg => hm (hn hg)) hc hf ho

theorem Holds.markRepeats (h : Holds l os gs) (ht : l.Forall Tame → l'.Forall Tame) :
    Holds l' os (markRepeats gs) := by
  cases h with
  | outermost hl => exact .outermost (ht hl)
  | inside hl hn hc hf ho => exact .inside (ht hl) nofun hc hf ho

/-! ## Parts that are no groups -/

/-- Is the pattern one character or one assertion? -/
def IsAtom (p : Pattern) : Prop := (∃ a, p = .set a) ∨ ∃ a, p = .look a

theorem Agrees.push (h : Agrees s g cs) {p : Pattern} (hp : IsAtom p) (hg : g'.groups = g.groups) :
    Agrees (s.push p) g' rest := by
  have hatom : p.Tame ∧ p.NoMany ∧ LastAgrees g'.before rest p := by
    rcases hp with ⟨a, rfl⟩ | ⟨a, rfl⟩ <;> exact ⟨trivial, rfl, trivial⟩
  refine ⟨h.verbose, ?_, fun q parts hq => ?_⟩
  · rw [hg]
    exact h.levels.mono (·.push hatom.1) (·.push hatom.2.1)
  · cases hq
    exact hatom.2.2

theorem Agrees.nextBranch (h : Agrees s g cs) (hg : g'.groups = g.groups) :
    Agrees { s with level := s.level.nextBranch } g' rest := by
  refine ⟨h.verbose, ?_, nofun⟩
  rw [hg]
  exact h.levels.mono (·.nextBranch composes_tame) (·.nextBranch composes_noMany)

/-! ## Groups -/

theorem Agrees.enter (h : Agrees s g cs) {capturing n : Bool} {f : Flags}
    (hn : capturing = false → n = true) (hf : f.verbose = false)
    (hg : g'.groups = ⟨n, false⟩ :: g.groups) : Agrees (s.enter capturing f) g' rest := by
  refine ⟨hf, ?_, nofun⟩
  rw [hg]
  exact .inside .empty (fun _ => .empty) hn h.verbose h.levels

theorem Holds.leave {o : Open} {i : Group} (h : Holds l (o :: os) (i :: gs)) :
    Holds (o.level.push (.group o.capturing l.pattern)) os (closeInto i gs) := by
  cases h with
  | inside hl hn hc hf ho =>
    have htame : (Pattern.group o.capturing l.pattern).Tame := hl.pattern composes_tame
    have hmany : i.repeats = false → (Pattern.group o.capturing l.pattern).NoMany := fun hi =>
      (hn hi).pattern composes_noMany
    cases ho with
    | outermost ht => exact .outermost (ht.push htame)
    | @inside _ o' os g gs ht hn' hc' hf' ho' =>
      refine .inside (ht.push htame) (fun hr => ?_) hc' hf' ho'
      obtain ⟨hg, hi⟩ := Bool.or_eq_false_iff.mp hr
      exact (hn' hg).push (hmany hi)

theorem Agrees.leave (h : Agrees s g cs) (hs : s.leave = some s') (hw : g.step .closing = .ok g') :
    Agrees s' g' rest := by
  have hlevels := h.levels
  unfold Progress.leave at hs
  split at hs
  · cases hs
  · next o outer ho =>
    cases hs
    rw [ho] at hlevels
    rcases step_closing_eq_ok_iff.mp hw with ⟨hnil, -⟩ | ⟨i, gs, hgs, rfl⟩
    · rw [hnil] at hlevels
      cases hlevels
    · rw [hgs] at hlevels
      have hleave := hlevels.leave
      cases hlevels with
      | inside hl hn hc hf ho' =>
        refine ⟨hf, hleave, fun p parts hp => ?_⟩
        cases hp
        exact ⟨i, rfl, hc, fun hi => (hn hi).pattern composes_noMany⟩

/-- Behind a change of flags. -/
theorem Agrees.setFlags (h : Agrees s g cs) {f : Flags} (hf : f.verbose = false)
    (hg : g'.groups = g.groups) :
    Agrees { s with flags := f, level.parts := none :: s.level.parts } g' rest := by
  have hmark : ∀ {P : Pattern → Prop}, s.level.Forall P →
      Level.Forall P { s.level with parts := none :: s.level.parts } := fun hl =>
    ⟨hl.1, fun p hp => hl.2 p (by simpa using hp)⟩
  refine ⟨hf, ?_, nofun⟩
  rw [hg]
  exact h.levels.mono hmark hmark

/-! ## Repetitions -/

/-- The screening takes the text up to the rest for some tokens, and agrees with the reader there if
it lets them pass. -/
def Follows (g : Shape) (cs : List Char) (s' : Progress) (rest : List Char) : Prop :=
  ∃ ts, Cuts cs ts rest ∧ ∀ g', g.walk ts = .ok g' → Agrees s' g' rest

/-- Tokens that are literals or repetition counts keep the open groups. -/
theorem groups_walk {ts : List Token} (hts : ∀ t ∈ ts, t = .literal ∨ t = .counted)
    (hw : g.walk ts = .ok g') : g'.groups = g.groups := by
  induction ts generalizing g with
  | nil =>
    cases hw
    rfl
  | cons t ts ih =>
    rw [List.forall_mem_cons] at hts
    obtain ⟨g₁, h₁, hw⟩ := walk_cons_eq_ok_iff.mp hw
    have hstep : g₁.groups = g.groups := by
      rcases hts.1 with rfl | rfl
      · cases h₁
        rfl
      · rw [(step_counted_eq_ok_iff.mp h₁).2]
    rw [ih hts.2 hw, hstep]

theorem groups_walk_opening {n : Bool} {ts : List Token}
    (hts : ∀ t ∈ ts, t = .literal ∨ t = .counted) (hw : g.walk (.opening n :: ts) = .ok g') :
    g'.groups = ⟨n, false⟩ :: g.groups := by
  obtain ⟨g₁, h₁, hw⟩ := walk_cons_eq_ok_iff.mp hw
  cases h₁
  exact groups_walk hts hw

theorem groups_walk_flags {ts : List Token} (hts : ∀ t ∈ ts, t = .literal ∨ t = .counted)
    (hw : g.walk (.opening false :: (ts ++ [.closing])) = .ok g') : g'.groups = g.groups := by
  rw [← List.cons_append] at hw
  obtain ⟨g₁, h₁, hw⟩ := walk_concat_eq_ok_iff.mp hw
  have hg := groups_walk_opening hts h₁
  rcases step_closing_eq_ok_iff.mp hw with ⟨hnil, -⟩ | ⟨i, gs, hgs, rfl⟩
  · rw [hnil] at hg
    cases hg
  · rw [hgs] at hg
    cases hg
    cases hgroups : g.groups <;> simp [closeInto]

theorem Agrees.enterNamed (h : Agrees s g cs) (front : List Char) {text : List Char}
    (hfront : ∀ c ∈ front, c ∉ specials) (hflags : ¬ BeginsFlags (front ++ text))
    (hp : plainName text = true) (hs : s.enterNamed text = some (s', rest)) :
    Follows g ('(' :: '?' :: (front ++ text)) s' rest := by
  obtain ⟨⟨name, text'⟩, hname, hnew⟩ := Option.bind_eq_some_iff.mp hs
  obtain ⟨rfl, hplain⟩ := exists_of_readGroupName hname hp
  split at hnew
  · cases hnew
  · cases hnew
    have hall : ∀ c ∈ front ++ (name ++ ['>']), c ∉ specials :=
      List.forall_mem_append.mpr ⟨hfront, List.forall_mem_append.mpr ⟨hplain, by simp [specials]⟩⟩
    have hcuts := cuts_literals hall text'
    simp only [List.append_assoc, List.singleton_append] at hcuts
    refine ⟨_, .asking hflags hcuts, fun g' hw => ?_⟩
    have hg := groups_walk_opening (fun t ht => .inl (List.eq_of_mem_replicate ht)) hw
    have hnamed : Agrees { s with names := name :: s.names } g cs := ⟨h.verbose, h.levels, h.last⟩
    exact hnamed.enter (by decide) h.verbose hg

theorem Agrees.readFlags (h : Agrees s g cs) {f : Flags} {e : FlagsEnd} {text : List Char}
    (hp : plainFlags text = true) (hr : PatternReader.readFlags [] s.flags text = some (f, e, rest)) :
    Follows g ('(' :: '?' :: text) (match e with
      | .colon => s.enter false f
      | .paren => { s with flags := f, level.parts := none :: s.level.parts }) rest := by
  have hf := verbose_of_plainFlags h.verbose hr hp
  obtain ⟨w, rfl, hw, -⟩ := exists_of_readFlags hr
  have hplain : ∀ c ∈ w, c ∉ specials := fun c hc => not_mem_specials (by decide) (hw c hc)
  have hflags : BeginsFlags (w ++ e.sign :: rest) ↔ e.sign = ':' :=
    beginsFlags_append_iff hw (isFlagChar_sign e)
  cases e with
  | colon =>
    have hcuts := cuts_literals (List.forall_mem_append.mpr
      ⟨hplain, (by simp [specials] : ∀ c ∈ [':'], c ∉ specials)⟩) rest
    rw [List.append_assoc, List.singleton_append] at hcuts
    refine ⟨_, .nonCapturing (hflags.mpr rfl) hcuts, fun g' hw => ?_⟩
    have hg := groups_walk_opening (fun t ht => .inl (List.eq_of_mem_replicate ht)) hw
    exact h.enter (fun _ => rfl) hf hg
  | paren =>
    have hcuts := (cuts_literals hplain (')' :: rest)).append (.closing (.nil rest))
    refine ⟨_, .asking (fun h => absurd (hflags.mp h) (by decide)) hcuts, fun g' hw => ?_⟩
    exact h.setFlags hf (groups_walk_flags (fun t ht => .inl (List.eq_of_mem_replicate ht)) hw)

/-- What stands behind an opening parenthesis. -/
theorem Agrees.readGroup (h : Agrees s g ('(' :: cs)) (hp : plainGroup cs = true)
    (hs : s.readGroup cs = some (s', rest)) : Follows g ('(' :: cs) s' rest := by
  have hangle : ∀ {w text : List Char}, (∀ c ∈ w, isFlagChar c = true) →
      ¬ BeginsFlags (w ++ '<' :: text) := fun hw hb =>
    absurd ((beginsFlags_append_iff hw (by decide)).mp hb) (by decide)
  unfold Progress.readGroup at hs
  rw [skip_eq h.verbose] at hs
  split at hs
  case h_1 | h_2 | h_3 | h_4 => cases hs
  case h_5 text =>
    exact h.enterNamed ['P', '<'] (by simp [specials]) (@hangle ['P'] text (by simp [isFlagChar])) hp hs
  case h_6 text _ _ =>
    exact h.enterNamed ['<'] (by simp [specials]) (@hangle [] text (List.forall_mem_nil _)) hp hs
  case h_7 text _ _ _ _ hP hlt =>
    obtain ⟨⟨f, e, rest'⟩, hr, hs⟩ := Option.map_eq_some_iff.mp hs
    have hflags : plainFlags text = true := by
      unfold plainGroup at hp
      split at hp
      · next heq => exact absurd (List.cons.inj heq).2 (hP _)
      · next heq => exact absurd (List.cons.inj heq).2 (hlt _)
      · next heq =>
        cases heq
        exact hp
      · next hne => exact absurd rfl (hne text)
    have hfollows := h.readFlags hflags hr
    cases e <;> cases hs <;> exact hfollows
  case h_8 _ _ _ _ _ _ hask =>
    cases hs
    have hhead : cs.head? ≠ some '?' := by
      intro hh
      obtain ⟨tail, rfl⟩ := List.head?_eq_some_iff.mp hh
      exact hask tail rfl
    refine ⟨_, .opening hhead (.nil cs), fun g' hw => ?_⟩
    exact h.enter (by decide) h.verbose (groups_walk_opening (by simp) hw)

/-- The screening lets the pattern pass, and it repeats what may not be repeated. -/
def Misleads (cs : List Char) : Prop :=
  isSafe cs = true ∧ ∃ p, Pattern.parse? cs = some p ∧ ¬ p.Tame

theorem misleads_iff {cs : List Char} : Misleads cs ↔
    isSafe cs = true ∧ (Pattern.parse? cs).any (fun p => !decide p.Tame) = true := by
  rw [Misleads, Option.any_eq_true]
  simp

instance (cs : List Char) : Decidable (Misleads cs) := decidable_of_iff' _ misleads_iff

end PostingRules.PatternReader
