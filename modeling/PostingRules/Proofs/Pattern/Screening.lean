import PostingRules.Proofs.Except
import PostingRules.Proofs.Pattern.Tokens
import Mathlib.Data.List.Induction

/-!
# What the screening refuses

The screening keeps a stack of open groups and what stood before a token. What it refuses is said
here of the tokens alone: what a token quantifies follows from the tokens before it.

* `Balanced`, `EndsWithGroup`: tokens that close the groups they open, and a group that ends here;
* `Quantifies`, `Doubled`, `OnNonCapturing`, `Nested`: the three ways in which a quantifier is
  wrong;
* `Refused`, `Faulty`: the reason why a token is refused, and that there is one;
* `Shape.walk`: the shape behind some tokens; `step_eq_error_iff`: which token it has no place for;
* `Faultless`, `RefusedFirst`: no faulty token, and the reason for the first one;
* **`rejection?_iff_refusedFirst`**: a pattern is refused for the reason of its first faulty token.
-/

namespace PostingRules.Guard

/-! ## Faulty quantifiers -/

/-- Tokens that close the groups they open, and no others. -/
inductive Balanced : List Token → Prop
  | nil : Balanced []
  | token {t ts} : (∀ n, t ≠ .opening n) → t ≠ .closing → Balanced ts → Balanced (t :: ts)
  | group {n ts us} : Balanced ts → Balanced us →
    Balanced (.opening n :: (ts ++ .closing :: us))

/-- A group ends behind the tokens: how it opens, and what is inside. -/
def EndsWithGroup (ts : List Token) (nonCapturing : Bool) (inside : List Token) : Prop :=
  Balanced inside ∧ ∃ outside, ts = outside ++ .opening nonCapturing :: (inside ++ [.closing])

/-- Do the tokens, last first, end with one that quantifies? A question mark behind a token that
quantifies is a lazy mark. -/
def endsQuantified : List Token → Bool
  | .many :: _ | .counted :: _ => true
  | .optional :: before => !endsQuantified before
  | _ => false

/-- Does the token quantify what stands before it? -/
def Quantifies (before : List Token) (t : Token) : Prop :=
  t = .many ∨ t = .counted ∨ (t = .optional ∧ endsQuantified before.reverse = false)

/-- A quantifier or a lazy mark ends the tokens. -/
def EndsMarked (ts : List Token) : Prop :=
  ∃ before t, ts = before ++ [t] ∧ (t = .many ∨ t = .counted ∨ t = .optional)

/-- The token is a quantifier behind a quantifier or a lazy mark. -/
def Doubled (before : List Token) (t : Token) : Prop := Quantifies before t ∧ EndsMarked before

/-- The token is a quantifier behind a group that does not capture. -/
def OnNonCapturing (before : List Token) (t : Token) : Prop :=
  Quantifies before t ∧ ∃ inside, EndsWithGroup before true inside

/-- The token is a repetition behind a group with a plus sign or an asterisk inside. -/
def Nested (before : List Token) (t : Token) : Prop :=
  (t = .many ∨ t = .counted) ∧ ∃ n inside, EndsWithGroup before n inside ∧ .many ∈ inside

/-- The token is a wrong quantifier. -/
def Faulty (before : List Token) (t : Token) : Prop :=
  Doubled before t ∨ OnNonCapturing before t ∨ Nested before t

/-- The reason why a token is refused: of several the first in the order doubled, non-capturing,
nested. -/
def Refused (before : List Token) (t : Token) : Reason → Prop
  | .tooLong => False
  | .doubled => Doubled before t
  | .nonCapturing => ¬ Doubled before t ∧ OnNonCapturing before t
  | .nested => ¬ Doubled before t ∧ ¬ OnNonCapturing before t ∧ Nested before t

theorem faulty_iff {before : List Token} {t : Token} :
    Faulty before t ↔ ∃ r, Refused before t r := by
  constructor
  · intro h
    by_cases hd : Doubled before t
    · exact ⟨.doubled, hd⟩
    by_cases hn : OnNonCapturing before t
    · exact ⟨.nonCapturing, hd, hn⟩
    · exact ⟨.nested, hd, hn, (h.resolve_left hd).resolve_left hn⟩
  · rintro ⟨r, hr⟩
    cases r with
    | tooLong => exact hr.elim
    | doubled => exact .inl hr
    | nonCapturing => exact .inr (.inl hr.2)
    | nested => exact .inr (.inr hr.2.2)

theorem Balanced.append {ts us : List Token} (h : Balanced ts) (h' : Balanced us) :
    Balanced (ts ++ us) := by
  induction h with
  | nil => exact h'
  | token hn hc _ ih => exact .token hn hc ih
  | group hts _ _ ih =>
    rw [List.cons_append, List.append_assoc, List.cons_append]
    exact .group hts ih

theorem Balanced.concat {ts : List Token} {t : Token} (h : Balanced ts) (hn : ∀ n, t ≠ .opening n)
    (hc : t ≠ .closing) : Balanced (ts ++ [t]) :=
  h.append (.token hn hc .nil)

/-! ## The shape behind some tokens -/

/-- The shape behind some tokens, or the reason why one of them may not stand there. -/
def Shape.walk (s : Shape) (ts : List Token) : Except Reason Shape := ts.foldlM Shape.step s

theorem walk_cons (s : Shape) (t : Token) (ts : List Token) :
    s.walk (t :: ts) = s.step t >>= fun s' => s'.walk ts := rfl

theorem walk_append (s : Shape) (ts us : List Token) :
    s.walk (ts ++ us) = s.walk ts >>= fun s' => s'.walk us := by
  rw [Shape.walk, List.foldlM_append]
  rfl

theorem walk_concat (s : Shape) (ts : List Token) (t : Token) :
    s.walk (ts ++ [t]) = s.walk ts >>= fun s' => s'.step t := by
  rw [walk_append]
  congr 1
  funext s'
  rw [walk_cons]
  cases s'.step t <;> rfl

theorem walk_cons_eq_ok_iff {s s' : Shape} {t : Token} {ts : List Token} :
    s.walk (t :: ts) = .ok s' ↔ ∃ s₁, s.step t = .ok s₁ ∧ s₁.walk ts = .ok s' := by
  rw [walk_cons, bind_eq_ok_iff]

theorem walk_append_eq_ok_iff {s s' : Shape} {ts us : List Token} :
    s.walk (ts ++ us) = .ok s' ↔ ∃ s₁, s.walk ts = .ok s₁ ∧ s₁.walk us = .ok s' := by
  rw [walk_append, bind_eq_ok_iff]

theorem walk_concat_eq_ok_iff {s s' : Shape} {ts : List Token} {t : Token} :
    s.walk (ts ++ [t]) = .ok s' ↔ ∃ s₁, s.walk ts = .ok s₁ ∧ s₁.step t = .ok s' := by
  rw [walk_concat, bind_eq_ok_iff]

theorem scan_eq_walk (s : Shape) (ts : List Token) :
    scan s ts = match s.walk ts with | .error r => some r | .ok _ => none := by
  induction ts generalizing s with
  | nil => rfl
  | cons t ts ih =>
    rw [scan, walk_cons]
    cases h : s.step t with
    | error r => rfl
    | ok s' => exact ih s'

/-- The shape before any token. -/
def Shape.start : Shape := ⟨[], .nothing⟩

/-! ## One token -/

variable {s s' : Shape} {t : Token}

theorem step_closing_eq_ok_iff : s.step .closing = .ok s' ↔
    (s.groups = [] ∧ s' = ⟨[], .atom⟩) ∨
      ∃ g gs, s.groups = g :: gs ∧ s' = ⟨closeInto g gs, .closing g⟩ := by
  obtain ⟨gs, b⟩ := s
  cases gs <;> simp [Shape.step, eq_comm]

theorem step_many_eq_ok_iff : s.step .many = .ok s' ↔
    s.before.forbids = none ∧ s' = ⟨markRepeats s.groups, .quantifier⟩ := by
  cases h : s.before.forbids <;> simp [Shape.step, h, eq_comm]

theorem step_counted_eq_ok_iff : s.step .counted = .ok s' ↔
    s.before.forbids = none ∧ s' = ⟨s.groups, .quantifier⟩ := by
  cases h : s.before.forbids <;> simp [Shape.step, h, eq_comm]

/-- May a question mark that is no lazy mark stand behind `before`? -/
def Before.allowsOptional : Before → Prop
  | .quantifier | .lazyMark => False
  | .closing g => g.nonCapturing = false
  | _ => True

theorem step_optional_eq_ok_iff : s.step .optional = .ok s' ↔
    (s.before = .quantifier ∧ s' = ⟨s.groups, .lazyMark⟩) ∨
      s.before.allowsOptional ∧ s' = ⟨s.groups, .quantifier⟩ := by
  obtain ⟨gs, b⟩ := s
  cases b with
  | closing g => cases h : g.nonCapturing <;> simp [Shape.step, Before.allowsOptional, h, eq_comm]
  | _ => simp [Shape.step, Before.allowsOptional, eq_comm]

/-- A token that is no parenthesis keeps the open groups, and marks the innermost one if it is a plus
sign or an asterisk. -/
theorem groups_step (hn : ∀ n, t ≠ .opening n) (hc : t ≠ .closing) (h : s.step t = .ok s') :
    s'.groups = if t = .many then markRepeats s.groups else s.groups := by
  cases t with
  | literal =>
    cases h
    rfl
  | opening n => exact absurd rfl (hn n)
  | closing => exact absurd rfl hc
  | many => rw [(step_many_eq_ok_iff.mp h).2, if_pos rfl]
  | counted => rw [(step_counted_eq_ok_iff.mp h).2, if_neg nofun]
  | optional =>
    rw [if_neg nofun]
    rcases step_optional_eq_ok_iff.mp h with ⟨-, rfl⟩ | ⟨-, rfl⟩ <;> rfl

/-! ## Groups -/

/-- **Balanced tokens inside a group** keep the groups around it, and the group repeats behind them if
there is a plus sign or an asterisk among them. -/
theorem walk_balanced {ts : List Token} (h : Balanced ts) {g : Group} {gs : List Group} {b : Before}
    {s : Shape} (hs : Shape.walk ⟨g :: gs, b⟩ ts = .ok s) :
    s.groups = ⟨g.nonCapturing, g.repeats || decide (.many ∈ ts)⟩ :: gs := by
  induction h generalizing g gs b s with
  | nil =>
    cases hs
    simp
  | @token t ts hn hc _ ih =>
    obtain ⟨s₁, h₁, hs⟩ := walk_cons_eq_ok_iff.mp hs
    have hg := groups_step hn hc h₁
    obtain ⟨gs₁, b₁⟩ := s₁
    by_cases ht : t = .many
    · simp only [if_pos ht, markRepeats] at hg
      subst hg
      simp [ih hs, ht]
    · simp only [if_neg ht] at hg
      subst hg
      simp [ih hs, ht, eq_comm]
  | @group n ts us _ _ ih ih' =>
    obtain ⟨s₁, h₁, hs⟩ := walk_cons_eq_ok_iff.mp hs
    cases h₁
    obtain ⟨⟨gs₂, b₂⟩, h₂, hs⟩ := walk_append_eq_ok_iff.mp hs
    obtain rfl : gs₂ = _ := ih h₂
    obtain ⟨s₃, h₃, hs⟩ := walk_cons_eq_ok_iff.mp hs
    cases h₃
    rw [ih' hs]
    simp [Bool.or_assoc]

/-- The open groups behind some tokens, innermost first: each stands behind the tokens that opened it,
and repeats if there is a plus sign or an asterisk behind them. -/
def HoldsGroups : List Token → List Group → Prop
  | _, [] => True
  | ts, g :: gs => ∃ outside inside, ts = outside ++ .opening g.nonCapturing :: inside ∧
    Balanced inside ∧ g.repeats = decide (.many ∈ inside) ∧ HoldsGroups outside gs

theorem HoldsGroups.append {ts us : List Token} {gs : List Group} (h : HoldsGroups ts gs)
    (hus : Balanced us) (hm : .many ∉ us) : HoldsGroups (ts ++ us) gs := by
  cases gs with
  | nil => trivial
  | cons g gs =>
    obtain ⟨outside, inside, rfl, hb, hr, ho⟩ := h
    refine ⟨outside, inside ++ us, by simp, hb.append hus, ?_, ho⟩
    simp [hr, hm]

theorem HoldsGroups.markRepeats {ts : List Token} {gs : List Group} (h : HoldsGroups ts gs) :
    HoldsGroups (ts ++ [.many]) (markRepeats gs) := by
  cases gs with
  | nil => trivial
  | cons g gs =>
    obtain ⟨outside, inside, rfl, hb, hr, ho⟩ := h
    exact ⟨outside, inside ++ [.many], by simp, hb.concat nofun nofun, by simp, ho⟩

theorem HoldsGroups.closeInto {ts : List Token} {g : Group} {gs : List Group}
    (h : HoldsGroups ts (g :: gs)) : HoldsGroups (ts ++ [.closing]) (closeInto g gs) := by
  cases gs with
  | nil => trivial
  | cons p gs =>
    obtain ⟨_, inside, rfl, hb, hr, outside, around, rfl, ha, hp, ho⟩ := h
    refine ⟨outside, around ++ .opening g.nonCapturing :: (inside ++ [.closing]), by simp,
      ha.append (.group hb .nil), ?_, ho⟩
    simp [hr, hp]

/-- What a step to a shape says: the shape behind a token that may stand there. -/
theorem holdsGroups_step {s s' : Shape} {ts : List Token} {t : Token} (h : HoldsGroups ts s.groups)
    (hs : s.step t = .ok s') : HoldsGroups (ts ++ [t]) s'.groups := by
  by_cases hc : t = .closing
  · subst hc
    obtain ⟨gs, b⟩ := s
    cases gs with
    | nil =>
      cases hs
      trivial
    | cons g gs =>
      cases hs
      exact h.closeInto
  by_cases hn : ∃ n, t = .opening n
  · obtain ⟨n, rfl⟩ := hn
    cases hs
    exact ⟨ts, [], rfl, .nil, rfl, h⟩
  · rw [not_exists] at hn
    rw [groups_step hn hc hs]
    split
    · next ht =>
      subst ht
      exact h.markRepeats
    · next ht => exact h.append (.token hn hc .nil) (by simpa using Ne.symm ht)

theorem holdsGroups_of_walk {ts : List Token} {s : Shape} (h : Shape.start.walk ts = .ok s) :
    HoldsGroups ts s.groups := by
  induction ts using List.reverseRecOn generalizing s with
  | nil =>
    cases h
    trivial
  | append_singleton ts t ih =>
    obtain ⟨s₀, h₀, hs⟩ := walk_concat_eq_ok_iff.mp h
    exact holdsGroups_step (ih h₀) hs

/-! ## What stands before a token -/

/-- **A group that ends stands before the next token**, with what is inside it. -/
theorem before_of_endsWithGroup {ts inside : List Token} {n : Bool} {s : Shape}
    (h : Shape.start.walk ts = .ok s) (hg : EndsWithGroup ts n inside) :
    s.before = .closing ⟨n, decide (.many ∈ inside)⟩ := by
  obtain ⟨hb, outside, rfl⟩ := hg
  obtain ⟨s₁, -, h⟩ := walk_append_eq_ok_iff.mp h
  obtain ⟨s₂, h₂, h⟩ := walk_cons_eq_ok_iff.mp h
  cases h₂
  obtain ⟨⟨gs, b⟩, h₃, h⟩ := walk_concat_eq_ok_iff.mp h
  obtain rfl : gs = _ := walk_balanced hb h₃
  cases h
  rfl

theorem endsWithGroup_of_before {ts : List Token} {g : Group}
    (h : Shape.start.walk ts = .ok s) (hg : s.before = .closing g) :
    ∃ inside, EndsWithGroup ts g.nonCapturing inside ∧ g.repeats = decide (.many ∈ inside) := by
  induction ts using List.reverseRecOn with
  | nil =>
    cases h
    cases hg
  | append_singleton ts t =>
    obtain ⟨s₀, h₀, hs⟩ := walk_concat_eq_ok_iff.mp h
    cases t with
    | literal | opening n =>
      cases hs
      cases hg
    | many =>
      rw [(step_many_eq_ok_iff.mp hs).2] at hg
      cases hg
    | counted =>
      rw [(step_counted_eq_ok_iff.mp hs).2] at hg
      cases hg
    | optional =>
      rcases step_optional_eq_ok_iff.mp hs with ⟨-, rfl⟩ | ⟨-, rfl⟩ <;> cases hg
    | closing =>
      rcases step_closing_eq_ok_iff.mp hs with ⟨-, rfl⟩ | ⟨g', gs, hgs, rfl⟩
      · cases hg
      · cases hg
        have := holdsGroups_of_walk h₀
        rw [hgs] at this
        obtain ⟨outside, inside, rfl, hb, hr, -⟩ := this
        exact ⟨inside, ⟨hb, outside, by simp⟩, hr⟩

theorem endsMarked_concat {ts : List Token} :
    EndsMarked (ts ++ [t]) ↔ t = .many ∨ t = .counted ∨ t = .optional := by
  constructor
  · rintro ⟨before, u, h, hu⟩
    obtain ⟨-, rfl⟩ := List.append_singleton_inj.mp h
    exact hu
  · intro h
    exact ⟨ts, t, rfl, h⟩

theorem before_eq_quantifier_iff {ts : List Token} (h : Shape.start.walk ts = .ok s) :
    s.before = .quantifier ↔ endsQuantified ts.reverse = true := by
  induction ts using List.reverseRecOn generalizing s with
  | nil =>
    cases h
    simp [endsQuantified, Shape.start]
  | append_singleton ts t ih =>
    obtain ⟨s₀, h₀, hs⟩ := walk_concat_eq_ok_iff.mp h
    rw [List.reverse_append, List.reverse_singleton, List.singleton_append]
    cases t with
    | literal | opening n =>
      cases hs
      simp [endsQuantified]
    | many => simp [(step_many_eq_ok_iff.mp hs).2, endsQuantified]
    | counted => simp [(step_counted_eq_ok_iff.mp hs).2, endsQuantified]
    | closing =>
      rcases step_closing_eq_ok_iff.mp hs with ⟨-, rfl⟩ | ⟨g, gs, -, rfl⟩ <;> simp [endsQuantified]
    | optional =>
      rw [endsQuantified, Bool.not_eq_true', ← Bool.not_eq_true, ← ih h₀]
      rcases step_optional_eq_ok_iff.mp hs with ⟨hq, rfl⟩ | ⟨hq, rfl⟩
      · simp [hq]
      · refine iff_of_true rfl fun h => ?_
        rw [h] at hq
        exact hq

theorem before_marked_iff {ts : List Token} (h : Shape.start.walk ts = .ok s) :
    s.before = .quantifier ∨ s.before = .lazyMark ↔ EndsMarked ts := by
  induction ts using List.reverseRecOn with
  | nil =>
    cases h
    simp [EndsMarked, Shape.start]
  | append_singleton ts t =>
    obtain ⟨s₀, h₀, hs⟩ := walk_concat_eq_ok_iff.mp h
    rw [endsMarked_concat]
    cases t with
    | literal | opening n =>
      cases hs
      simp
    | many => simp [(step_many_eq_ok_iff.mp hs).2]
    | counted => simp [(step_counted_eq_ok_iff.mp hs).2]
    | closing =>
      rcases step_closing_eq_ok_iff.mp hs with ⟨-, rfl⟩ | ⟨g, gs, -, rfl⟩ <;> simp
    | optional =>
      rcases step_optional_eq_ok_iff.mp hs with ⟨-, rfl⟩ | ⟨-, rfl⟩ <;> simp

theorem endsWithGroup_true_iff {ts : List Token} (h : Shape.start.walk ts = .ok s) :
    (∃ inside, EndsWithGroup ts true inside) ↔
      ∃ g, s.before = .closing g ∧ g.nonCapturing = true := by
  constructor
  · rintro ⟨inside, hi⟩
    exact ⟨_, before_of_endsWithGroup h hi, rfl⟩
  · rintro ⟨g, hg, hn⟩
    obtain ⟨inside, hi, -⟩ := endsWithGroup_of_before h hg
    exact ⟨inside, hn ▸ hi⟩

theorem endsWithGroup_many_iff {ts : List Token} (h : Shape.start.walk ts = .ok s) :
    (∃ n inside, EndsWithGroup ts n inside ∧ .many ∈ inside) ↔
      ∃ g, s.before = .closing g ∧ g.repeats = true := by
  constructor
  · rintro ⟨n, inside, hi, hm⟩
    exact ⟨_, before_of_endsWithGroup h hi, by simpa using hm⟩
  · rintro ⟨g, hg, hr⟩
    obtain ⟨inside, hi, hm⟩ := endsWithGroup_of_before h hg
    exact ⟨g.nonCapturing, inside, hi, by simpa [hr] using hm⟩

/-! ## The first faulty token -/

theorem doubled_iff {ts : List Token} (h : Shape.start.walk ts = .ok s) : Doubled ts t ↔
    Quantifies ts t ∧ (s.before = .quantifier ∨ s.before = .lazyMark) :=
  and_congr_right fun _ => (before_marked_iff h).symm

theorem onNonCapturing_iff {ts : List Token} (h : Shape.start.walk ts = .ok s) :
    OnNonCapturing ts t ↔ Quantifies ts t ∧ ∃ g, s.before = .closing g ∧ g.nonCapturing = true :=
  and_congr_right fun _ => endsWithGroup_true_iff h

theorem nested_iff {ts : List Token} (h : Shape.start.walk ts = .ok s) : Nested ts t ↔
    (t = .many ∨ t = .counted) ∧ ∃ g, s.before = .closing g ∧ g.repeats = true :=
  and_congr_right fun _ => endsWithGroup_many_iff h

theorem quantifies_optional_iff {ts : List Token} (h : Shape.start.walk ts = .ok s) :
    Quantifies ts .optional ↔ s.before ≠ .quantifier := by
  rw [ne_eq, before_eq_quantifier_iff h, Bool.not_eq_true]
  simp [Quantifies]

theorem forbids_eq_some_iff {ts : List Token} {r : Reason} (h : Shape.start.walk ts = .ok s)
    (ht : t = .many ∨ t = .counted) : s.before.forbids = some r ↔ Refused ts t r := by
  have hq : Quantifies ts t := ht.imp_right .inl
  cases hb : s.before with
  | closing g =>
    cases r <;> cases hn : g.nonCapturing <;> cases hr : g.repeats <;>
      simp [Before.forbids, Refused, doubled_iff h, onNonCapturing_iff h, nested_iff h, hq, ht, hb,
        hn, hr]
  | _ =>
    cases r <;>
      simp [Before.forbids, Refused, doubled_iff h, onNonCapturing_iff h, nested_iff h, hq, hb]

theorem step_optional_eq_error_iff {ts : List Token} {r : Reason} (h : Shape.start.walk ts = .ok s) :
    s.step .optional = .error r ↔ Refused ts .optional r := by
  have hq := quantifies_optional_iff h
  cases hb : s.before with
  | closing g =>
    cases r <;> cases hn : g.nonCapturing <;>
      simp [Shape.step, Refused, doubled_iff h, onNonCapturing_iff h, nested_iff h, hq, hb, hn]
  | _ =>
    cases r <;>
      simp [Shape.step, Refused, doubled_iff h, onNonCapturing_iff h, nested_iff h, hq, hb]

/-- **A token is refused** where the shape behind the tokens before it has no place for it. -/
theorem step_eq_error_iff {ts : List Token} {r : Reason} (h : Shape.start.walk ts = .ok s) :
    s.step t = .error r ↔ Refused ts t r := by
  cases t with
  | many =>
    rw [← forbids_eq_some_iff h (.inl rfl)]
    cases hf : s.before.forbids <;> simp [Shape.step, hf]
  | counted =>
    rw [← forbids_eq_some_iff h (.inr rfl)]
    cases hf : s.before.forbids <;> simp [Shape.step, hf]
  | optional => exact step_optional_eq_error_iff h
  | literal | opening n =>
    cases r <;> simp [Shape.step, Refused, Doubled, OnNonCapturing, Nested, Quantifies]
  | closing =>
    have hok : ∀ r, s.step .closing ≠ .error r := by
      intro r
      cases hg : s.groups <;> simp [Shape.step, hg]
    cases r <;> simp [hok, Refused, Doubled, OnNonCapturing, Nested, Quantifies]

/-- No token is faulty. -/
def Faultless (ts : List Token) : Prop :=
  ∀ before t after, ts = before ++ t :: after → ¬ Faulty before t

/-- The first faulty token is refused for the reason. -/
def RefusedFirst (ts : List Token) (r : Reason) : Prop :=
  ∃ before t after, ts = before ++ t :: after ∧ Refused before t r ∧ Faultless before

theorem faultless_concat {ts : List Token} :
    Faultless (ts ++ [t]) ↔ Faultless ts ∧ ¬ Faulty ts t := by
  constructor
  · intro h
    exact ⟨fun p u q hts => h p u (q ++ [t]) (by simp [hts]), h ts t [] rfl⟩
  · rintro ⟨h, ht⟩ p u q hts
    rcases List.eq_nil_or_concat q with rfl | ⟨q, v, rfl⟩
    · obtain ⟨rfl, rfl⟩ := List.append_singleton_inj.mp hts
      exact ht
    · rw [List.concat_eq_append, ← List.cons_append, ← List.append_assoc] at hts
      exact h p u q (List.append_singleton_inj.mp hts).1

theorem walk_eq_ok_iff {ts : List Token} : (∃ s, Shape.start.walk ts = .ok s) ↔ Faultless ts := by
  induction ts using List.reverseRecOn with
  | nil => exact iff_of_true ⟨_, rfl⟩ fun p u q h => by simp at h
  | append_singleton ts t ih =>
    rw [faultless_concat, ← ih]
    constructor
    · rintro ⟨s, h⟩
      obtain ⟨s₀, h₀, hs⟩ := walk_concat_eq_ok_iff.mp h
      refine ⟨⟨s₀, h₀⟩, fun hf => ?_⟩
      obtain ⟨r, hr⟩ := faulty_iff.mp hf
      rw [(step_eq_error_iff h₀).mpr hr] at hs
      cases hs
    · rintro ⟨⟨s₀, h₀⟩, hf⟩
      cases hs : s₀.step t with
      | error r => exact absurd (faulty_iff.mpr ⟨r, (step_eq_error_iff h₀).mp hs⟩) hf
      | ok s => exact ⟨s, walk_concat_eq_ok_iff.mpr ⟨s₀, h₀, hs⟩⟩

theorem walk_eq_error_iff {ts : List Token} {r : Reason} :
    Shape.start.walk ts = .error r ↔ RefusedFirst ts r := by
  constructor
  · intro h
    induction ts using List.reverseRecOn with
    | nil => cases h
    | append_singleton ts t ih =>
      rw [walk_concat] at h
      cases h₀ : Shape.start.walk ts with
      | error r' =>
        rw [h₀] at h
        cases h
        obtain ⟨before, u, after, rfl, hr, hf⟩ := ih h₀
        exact ⟨before, u, after ++ [t], by simp, hr, hf⟩
      | ok s =>
        rw [h₀] at h
        exact ⟨ts, t, [], rfl, (step_eq_error_iff h₀).mp h, walk_eq_ok_iff.mp ⟨s, h₀⟩⟩
  · rintro ⟨before, t, after, rfl, hr, hf⟩
    obtain ⟨s, hs⟩ := walk_eq_ok_iff.mpr hf
    rw [walk_append, hs]
    change s.walk (t :: after) = _
    rw [walk_cons, (step_eq_error_iff hs).mpr hr]
    rfl

/-- **A pattern is refused for the reason of its first faulty token**, and not refused if none of its
tokens is faulty. -/
theorem rejection?_iff_refusedFirst (cs : List Char) (h : cs.length ≤ 200) :
    ∃ ts, (∀ us, Cuts cs us [] ↔ us = ts) ∧ (rejection? cs = none ↔ Faultless ts) ∧
      ∀ r, rejection? cs = some r ↔ RefusedFirst ts r := by
  refine ⟨tokens cs, fun us => cuts_iff, ?_⟩
  have hscan : rejection? cs = scan Shape.start (tokens cs) := if_neg (Nat.not_lt.mpr h)
  rw [hscan, scan_eq_walk]
  cases hw : Shape.start.walk (tokens cs) with
  | ok s =>
    refine ⟨iff_of_true rfl (walk_eq_ok_iff.mp ⟨s, hw⟩), fun r => ?_⟩
    rw [← walk_eq_error_iff, hw]
    simp
  | error r =>
    refine ⟨iff_of_false nofun fun hf => ?_, fun r' => ?_⟩
    · obtain ⟨s, hs⟩ := walk_eq_ok_iff.mpr hf
      rw [hw] at hs
      cases hs
    · rw [← walk_eq_error_iff, hw]
      simp

theorem rejection?_iff_refusedFirst_deepGroup :
    "((a+)b)?c{2}(?:d)?".toList.length ≤ 200 ∧
      rejection? "((a+)b)?c{2}(?:d)?".toList = some .nonCapturing ∧
      RefusedFirst (tokens "((a+)b)?c{2}(?:d)?".toList) .nonCapturing := by
  obtain ⟨ts, hts, -, hr⟩ := rejection?_iff_refusedFirst "((a+)b)?c{2}(?:d)?".toList (by decide)
  have h : rejection? "((a+)b)?c{2}(?:d)?".toList = some .nonCapturing := by decide
  have htokens : tokens "((a+)b)?c{2}(?:d)?".toList = ts := (hts _).mp (cuts_tokens _)
  exact ⟨by decide, h, htokens ▸ (hr _).mp h⟩

end PostingRules.Guard
