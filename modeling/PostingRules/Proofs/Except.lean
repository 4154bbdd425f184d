import Mathlib.Data.List.Forall2

/-!
# Results that may be errors

* `bind_eq_ok_iff`, `map_eq_ok_iff`: a step behind another succeeds if both do;
* `mapM_eq_ok_iff`: a function succeeds on a list if it does on every member;
* `Traverses`: a function on a list with numbers, whose error names the member that failed;
  `Traverses.eq_ok_iff`, `Traverses.eq_error_iff`: what it answers.
-/

namespace PostingRules

theorem bind_eq_ok_iff {α β ε : Type} {x : Except ε α} {f : α → Except ε β} {b : β} :
    x >>= f = .ok b ↔ ∃ a, x = .ok a ∧ f a = .ok b := by
  cases x with
  | error e => exact ⟨nofun, nofun⟩
  | ok a =>
    refine ⟨fun h => ⟨a, rfl, h⟩, ?_⟩
    rintro ⟨_, ha, h⟩
    cases ha
    exact h

theorem map_eq_ok_iff {α β ε : Type} {x : Except ε α} {f : α → β} {b : β} :
    x.map f = .ok b ↔ ∃ a, x = .ok a ∧ f a = b := by
  cases x with
  | error e => exact ⟨nofun, nofun⟩
  | ok a =>
    refine ⟨fun h => ⟨a, rfl, Except.ok.inj h⟩, ?_⟩
    rintro ⟨_, ha, rfl⟩
    cases ha
    rfl

theorem mapM_eq_ok_iff {α β ε : Type} {f : α → Except ε β} {l : List α} {bs : List β} :
    l.mapM f = .ok bs ↔ List.Forall₂ (fun a b => f a = .ok b) l bs := by
  induction l generalizing bs with
  | nil =>
    rw [List.mapM_nil, List.forall₂_nil_left_iff]
    exact ⟨fun h => by cases h; rfl, fun h => by rw [h]; rfl⟩
  | cons a l ih =>
    rw [List.mapM_cons, bind_eq_ok_iff, List.forall₂_cons_left_iff]
    refine exists_congr fun b => ?_
    simp only [bind_eq_ok_iff, ih]
    constructor
    · rintro ⟨hb, bs', hbs', h⟩
      cases h
      exact ⟨bs', hb, hbs', rfl⟩
    · rintro ⟨bs', hb, hbs', rfl⟩
      exact ⟨hb, bs', hbs', rfl⟩

/-- From number `n` on, `run n` reads every member of a list by `f`; if that fails for one of them,
its error is made of the number, the member and the error there. -/
structure Traverses {α β ε δ : Type} (f : α → Except ε β) (fail : Nat → α → ε → δ)
    (run : Nat → List α → Except δ (List β)) : Prop where
  nil : ∀ n, run n [] = .ok []
  ok : ∀ n {a b} l, f a = .ok b → run n (a :: l) = (run (n + 1) l).map (b :: ·)
  error : ∀ n {a e} l, f a = .error e → run n (a :: l) = .error (fail n a e)

namespace Traverses

variable {α β ε δ : Type} {f : α → Except ε β} {fail : Nat → α → ε → δ}
  {run : Nat → List α → Except δ (List β)}

theorem eq_ok_iff (h : Traverses f fail run) {n : Nat} {l : List α} {bs : List β} :
    run n l = .ok bs ↔ List.Forall₂ (fun a b => f a = .ok b) l bs := by
  induction l generalizing n bs with
  | nil => rw [h.nil, List.forall₂_nil_left_iff, Except.ok.injEq, eq_comm]
  | cons a l ih =>
    rw [List.forall₂_cons_left_iff]
    cases ha : f a with
    | error e =>
      rw [h.error n l ha]
      exact ⟨nofun, fun ⟨_, _, hb, _⟩ => nomatch hb⟩
    | ok b =>
      rw [h.ok n l ha]
      constructor
      · intro hrun
        cases hr : run (n + 1) l with
        | error d =>
          rw [hr] at hrun
          cases hrun
        | ok bs' =>
          rw [hr] at hrun
          cases hrun
          exact ⟨b, bs', rfl, ih.mp hr, rfl⟩
      · rintro ⟨_, bs', hb, hbs, rfl⟩
        cases hb
        rw [ih.mpr hbs]
        rfl

/-- **The error is that of the first member that fails.** -/
theorem eq_error_iff (h : Traverses f fail run) {n : Nat} {l : List α} {d : δ} :
    run n l = .error d ↔ ∃ before a after e, l = before ++ a :: after ∧
      (∀ b ∈ before, ∃ c, f b = .ok c) ∧ f a = .error e ∧ d = fail (n + before.length) a e := by
  induction l generalizing n with
  | nil =>
    rw [h.nil]
    exact ⟨nofun, fun ⟨_, _, _, _, hl, _⟩ => by simp at hl⟩
  | cons a l ih =>
    cases ha : f a with
    | error e =>
      rw [h.error n l ha]
      constructor
      · rintro ⟨⟩
        exact ⟨[], a, l, e, rfl, nofun, ha, rfl⟩
      · rintro ⟨before, a', after, e', hl, hb, ha', rfl⟩
        cases before with
        | nil =>
          cases hl
          rw [ha] at ha'
          cases ha'
          rfl
        | cons b before =>
          cases hl
          obtain ⟨c, hc⟩ := hb a List.mem_cons_self
          rw [ha] at hc
          cases hc
    | ok b =>
      have hmap : (run (n + 1) l).map (b :: ·) = .error d ↔ run (n + 1) l = .error d := by
        cases run (n + 1) l <;> simp [Except.map]
      rw [h.ok n l ha, hmap, ih]
      constructor
      · rintro ⟨before, a', after, e, rfl, hb, ha', rfl⟩
        refine ⟨a :: before, a', after, e, rfl, List.forall_mem_cons.mpr ⟨⟨b, ha⟩, hb⟩, ha', ?_⟩
        rw [List.length_cons, Nat.add_right_comm, Nat.add_assoc]
      · rintro ⟨before, a', after, e, hl, hb, ha', rfl⟩
        cases before with
        | nil =>
          cases hl
          rw [ha] at ha'
          cases ha'
        | cons b' before =>
          cases hl
          refine ⟨before, a', after, e, rfl, (List.forall_mem_cons.mp hb).2, ha', ?_⟩
          rw [List.length_cons, Nat.add_right_comm, Nat.add_assoc]

end Traverses

end PostingRules
