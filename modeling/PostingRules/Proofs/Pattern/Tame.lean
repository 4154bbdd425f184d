import PostingRules.Pattern.Reader
import Mathlib.Tactic.Common

/-!
# Tame patterns

What the screening promises of the syntax tree of a pattern.

* `Pattern.hasMany`: a repetition by a plus sign or an asterisk, at any depth;
* `Pattern.mayRepeat`: what may be repeated;
* **`Pattern.Tame`**: only that is repeated, at any depth;
* `Level.Forall`: a property of all patterns of a level, and so of the pattern of the level.
-/

namespace PostingRules

/-- Is it a plus sign or an asterisk? -/
def Quantifier.isMany : Quantifier → Bool
  | plus | star => true
  | optional | counted _ _ => false

namespace Pattern

/-- Does the pattern have a repetition by a plus sign or an asterisk, at any depth? -/
def hasMany : Pattern → Bool
  | empty | set _ | look _ => false
  | seq a b | alt a b => a.hasMany || b.hasMany
  | group _ p => p.hasMany
  | repeats q p => q.isMany || p.hasMany

/-- The pattern has no repetition by a plus sign or an asterisk. -/
def NoMany (p : Pattern) : Prop := p.hasMany = false

/-- May the pattern be repeated? Not a repetition, not a group that does not capture, and unless it is
only optional no group with a plus sign or an asterisk inside. -/
def mayRepeat (q : Quantifier) : Pattern → Bool
  | repeats _ _ => false
  | group capturing p => capturing && (q = .optional || !p.hasMany)
  | empty | set _ | look _ | seq _ _ | alt _ _ => true

/-- **Only what may be repeated is repeated**, at any depth. -/
def Tame : Pattern → Prop
  | empty | set _ | look _ => True
  | seq a b | alt a b => a.Tame ∧ b.Tame
  | group _ p => p.Tame
  | repeats q p => p.mayRepeat q = true ∧ p.Tame

instance decidableTame : (p : Pattern) → Decidable p.Tame
  | empty | set _ | look _ => isTrue trivial
  | seq a b | alt a b =>
    have := decidableTame a
    have := decidableTame b
    inferInstanceAs (Decidable (a.Tame ∧ b.Tame))
  | group _ p => decidableTame p
  | repeats q p =>
    have := decidableTame p
    inferInstanceAs (Decidable (p.mayRepeat q = true ∧ p.Tame))

/-- A property that sequences and alternatives have if their parts do. -/
structure Composes (P : Pattern → Prop) : Prop where
  empty : P empty
  seq : ∀ {a b}, P a → P b → P (seq a b)
  alt : ∀ {a b}, P a → P b → P (alt a b)

theorem composes_tame : Composes Tame := ⟨trivial, fun ha hb => ⟨ha, hb⟩, fun ha hb => ⟨ha, hb⟩⟩

theorem composes_noMany : Composes NoMany where
  empty := rfl
  seq ha hb := Bool.or_eq_false_iff.mpr ⟨ha, hb⟩
  alt ha hb := Bool.or_eq_false_iff.mpr ⟨ha, hb⟩

variable {P : Pattern → Prop}

theorem Composes.seqs (hP : Composes P) {ps : List Pattern} (h : ∀ p ∈ ps, P p) : P (seqs ps) := by
  induction ps with
  | nil => exact hP.empty
  | cons p ps ih =>
    rw [List.forall_mem_cons] at h
    cases ps with
    | nil => exact h.1
    | cons q qs => exact hP.seq h.1 (ih h.2)

theorem Composes.alts (hP : Composes P) {ps : List Pattern} (h : ∀ p ∈ ps, P p) : P (alts ps) := by
  induction ps with
  | nil => exact hP.empty
  | cons p ps ih =>
    rw [List.forall_mem_cons] at h
    cases ps with
    | nil => exact h.1
    | cons q qs => exact hP.alt h.1 (ih h.2)

end Pattern

namespace PatternReader

open Pattern

variable {P : Pattern → Prop} {l : Level}

/-- All patterns of a level have a property. -/
def Level.Forall (P : Pattern → Prop) (l : Level) : Prop :=
  (∀ p ∈ l.branches, P p) ∧ ∀ p, some p ∈ l.parts → P p

theorem Level.Forall.empty : Level.Forall P {} := ⟨nofun, nofun⟩

theorem Level.Forall.push (h : l.Forall P) {p : Pattern} (hp : P p) : (l.push p).Forall P := by
  refine ⟨h.1, fun q hq => ?_⟩
  rcases List.mem_cons.mp hq with hq | hq
  · cases hq
    exact hp
  · exact h.2 q hq

theorem Level.Forall.branch (h : l.Forall P) (hP : Composes P) : P l.branch :=
  hP.seqs fun p hp => h.2 p (by simpa using hp)

theorem Level.Forall.nextBranch (h : l.Forall P) (hP : Composes P) : l.nextBranch.Forall P :=
  ⟨List.forall_mem_cons.mpr ⟨h.branch hP, h.1⟩, nofun⟩

theorem Level.Forall.pattern (h : l.Forall P) (hP : Composes P) : P l.pattern :=
  hP.alts fun p hp => (h.nextBranch hP).1 p (List.mem_reverse.mp hp)

end PatternReader

end PostingRules
