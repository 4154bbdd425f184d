import PostingRules.Rule.Suggestions
import PostingRules.Proofs.Matching
import PostingRules.Proofs.Text.Digits
import PostingRules.Proofs.Text.Trim
import Mathlib.Data.List.Forall2

/-!
# What the matches of a transaction recommend

* `WritesAccount`: a target is the number of an account, with blanks around it;
* `Rule.books`, `IsDecision`: a rule books a transaction, and is the one that decides;
* `suggestions_map_evaluation`: matches and their evaluations recommend the same;
* `forall₂_accounts`: the accounts are those of the targets that are numbers;
* `isDecision_of_autoBook?`: the decision is the best rule that books, and of several the first;
* **`suggestions_evaluations`**: all of it.
-/

namespace PostingRules

open PostingRules.Text

/-! ## Accounts -/

/-- The target is, between blanks, a numeral with the value `n`, and `n` has at most 32 bits. -/
def WritesAccount (target : String) (n : Nat) : Prop :=
  n ≤ maxNat32 ∧ ∃ front core back, target.toList = front ++ core ++ back ∧
    AllBlank front ∧ AllBlank back ∧ IsNumeral core n

theorem account?_eq_some_iff {target : String} {n : Nat} :
    account? target = some n ↔ WritesAccount target n := by
  have hok : account? target = some n ↔ readNat maxNat32 (trimList target.toList) = .ok n := by
    unfold account?
    cases readNat maxNat32 (trimList target.toList) <;> simp [Except.toOption]
  rw [hok, readNat_eq_ok_iff]
  constructor
  · rintro ⟨hnum, hle⟩
    obtain ⟨front, back, hsplit, hf, hb⟩ := exists_framed_trimList target.toList
    exact ⟨hle, front, _, back, hsplit, hf, hb, hnum⟩
  · rintro ⟨hle, front, core, back, hsplit, hf, hb, hnum⟩
    rw [hsplit, trimList_framed hf hb hnum.isBlank_eq_false]
    exact ⟨hnum, hle⟩

theorem isSome_account?_iff {target : String} :
    (account? target).isSome = true ↔ ∃ n, WritesAccount target n := by
  rw [Option.isSome_iff_exists]
  exact exists_congr fun n => account?_eq_some_iff

instance (target : String) : Decidable (∃ n, WritesAccount target n) :=
  decidable_of_iff _ isSome_account?_iff

theorem forall₂_filterMap {α β : Type} {f : α → Option β} (l : List α) :
    List.Forall₂ (fun a b => f a = some b) (l.filter fun a => (f a).isSome) (l.filterMap f) := by
  induction l with
  | nil => exact .nil
  | cons a l ih =>
    cases h : f a with
    | none =>
      rw [List.filterMap_cons_none h, List.filter_cons_of_neg (by simp [h])]
      exact ih
    | some b =>
      rw [List.filterMap_cons_some h, List.filter_cons_of_pos (by simp [h])]
      exact .cons h ih

/-- **The accounts that matches suggest** are the numbers in the targets of the matches that suggest
an account, in their order, where the target is a number. -/
theorem forall₂_accounts (ms : List Match) :
    List.Forall₂ (fun (m : Match) n => WritesAccount m.rule.target n)
      (ms.filter fun m => m.rule.action = .suggestAccount ∧ ∃ n, WritesAccount m.rule.target n)
      (accounts ms) := by
  have hfilter : (ms.filter fun m => m.rule.action = .suggestAccount ∧
        ∃ n, WritesAccount m.rule.target n) =
      (ms.filter (recommends .suggestAccount)).filter fun m => (account? m.rule.target).isSome := by
    rw [List.filter_filter]
    refine List.filter_congr fun m _ => ?_
    rw [Bool.eq_iff_iff, decide_eq_true_eq, Bool.and_eq_true, isSome_account?_iff, and_comm,
      recommends, decide_eq_true_eq]
    rfl
  have hsome := forall₂_filterMap (f := fun m : Match => account? m.rule.target)
    (ms.filter (recommends .suggestAccount))
  rw [hfilter, accounts]
  exact hsome.imp fun _ _ h => account?_eq_some_iff.mp h

/-! ## Matches and evaluations -/

theorem recommends_evaluation (k : ActionKind) :
    recommends k ∘ Match.evaluation = recommends (α := Match) k := rfl

/-- **Matches and their evaluations recommend the same.** -/
theorem suggestions_map_evaluation (ms : List Match) : suggestions (ms.map Match.evaluation) =
    ⟨templates ms, accounts ms, (autoBook? ms).map Match.evaluation⟩ := by
  rw [suggestions, Suggestions.mk.injEq]
  refine ⟨?_, ?_, ?_⟩
  · rw [templates, List.filter_map, List.map_map, recommends_evaluation]
    rfl
  · rw [accounts, List.filter_map, List.filterMap_map, recommends_evaluation]
    rfl
  · rw [autoBook?, List.find?_map, recommends_evaluation]
    rfl

/-! ## The decision -/

/-- Does the rule book the transaction? -/
def Rule.books (t : Transaction) (r : Rule) : Bool := r.fires t && r.action = .autoBook

/-- **The match that decides**: its rule books the transaction, the rules before it that book rank
below it, and those behind it not above it. -/
def IsDecision (rs : List Rule) (t : Transaction) (m : Match) : Prop :=
  ∃ top before after, IsTop (activePriorities rs) top ∧ m = m.rule.matchAt top ∧
    rs = before ++ m.rule :: after ∧ m.rule.books t = true ∧
    (∀ r ∈ before, r.books t = true → (r.matchAt top).rank < m.rank) ∧
    ∀ r ∈ after, r.books t = true → (r.matchAt top).rank ≤ m.rank

theorem exists_split_of_map_filter {α β : Type} {f : α → β} {p : α → Bool} {l : List α} {b : β}
    {front back : List β} (h : (l.filter p).map f = front ++ b :: back) :
    ∃ before a after, l = before ++ a :: after ∧ p a = true ∧ f a = b ∧
      (∀ x ∈ before, p x = true → f x ∈ front) ∧ ∀ x ∈ after, p x = true → f x ∈ back := by
  obtain ⟨l₁, l₂, hl, rfl, h₂⟩ := List.map_eq_append_iff.mp h
  obtain ⟨a, l₃, rfl, rfl, rfl⟩ := List.map_eq_cons_iff.mp h₂
  obtain ⟨k₁, k₂, rfl, rfl, hk⟩ := List.filter_eq_append_iff.mp hl
  obtain ⟨j₁, j₂, rfl, hj, ha, rfl⟩ := List.filter_eq_cons_iff.mp hk
  refine ⟨k₁ ++ j₁, a, j₂, by rw [List.append_assoc], ha, rfl, fun x hx hp => ?_, fun x hx hp => ?_⟩
  · rcases List.mem_append.mp hx with hx | hx
    · exact List.mem_map_of_mem (List.mem_filter.mpr ⟨hx, hp⟩)
    · exact absurd hp (hj x hx)
  · exact List.mem_map_of_mem (List.mem_filter.mpr ⟨hx, hp⟩)

theorem books_iff {r : Rule} {t : Transaction} (top : Int) :
    r.books t = true ↔ r.fires t = true ∧ recommends .autoBook (r.matchAt top) = true := by
  rw [Rule.books, Bool.and_eq_true]
  rfl

theorem autoBook?_eq_none_iff (rs : List Rule) (t : Transaction) :
    autoBook? (findMatches rs t) = none ↔ ∀ r ∈ rs, r.books t = false := by
  obtain ⟨top, -, h⟩ := findMatches_isStableSort rs t
  rw [autoBook?, List.find?_eq_none]
  constructor
  · intro hnone r hr
    by_contra hb
    rw [Bool.not_eq_false, books_iff top] at hb
    refine hnone (r.matchAt top) (h.perm.mem_iff.mpr ?_) hb.2
    exact List.mem_map_of_mem (List.mem_filter.mpr ⟨hr, hb.1⟩)
  · intro hnone m hm hrec
    obtain ⟨r, hr, rfl⟩ := List.mem_map.mp (h.perm.mem_iff.mp hm)
    obtain ⟨hr, hf⟩ := List.mem_filter.mp hr
    exact Bool.false_ne_true ((hnone r hr).symm.trans ((books_iff top).mpr ⟨hf, hrec⟩))

/-- **The decision is the best rule that books**, and of several the first. -/
theorem isDecision_of_autoBook? {rs : List Rule} {t : Transaction} {m : Match}
    (hm : autoBook? (findMatches rs t) = some m) : IsDecision rs t m := by
  obtain ⟨top, htop, h⟩ := findMatches_isStableSort rs t
  obtain ⟨front, back, hsplit, hrec, hfront, hback⟩ := h.find?_eq_some hm
  obtain ⟨before, r, after, hrs, hfires, rfl, hbefore, hafter⟩ := exists_split_of_map_filter hsplit
  refine ⟨top, before, after, htop, rfl, hrs, (books_iff top).mpr ⟨hfires, hrec⟩, ?_, ?_⟩
  · intro x hx hb
    obtain ⟨hf, hr⟩ := (books_iff top).mp hb
    exact hfront _ (hbefore x hx hf) hr
  · intro x hx hb
    obtain ⟨hf, hr⟩ := (books_iff top).mp hb
    exact hback _ (hafter x hx hf) hr

theorem map_rule_findMatches_perm (rs : List Rule) (t : Transaction) :
    ((findMatches rs t).map (·.rule)).Perm (rs.filter (·.fires t)) := by
  obtain ⟨top, -, h⟩ := findMatches_isStableSort rs t
  have := h.perm.map (·.rule)
  rwa [List.map_map, show (·.rule) ∘ (Rule.matchAt · top) = id from rfl, List.map_id] at this

/-- **The suggestions for a transaction.** They are the same for matches and evaluations. Nothing is
booked just where no active rule books; else the rule with the highest rank does, and of several the
first. Templates and accounts stand in the order of the matches, and the accounts are the numbers in
the targets that are numbers. -/
theorem suggestions_evaluations (rs : List Rule) (t : Transaction) :
    let ms := findMatches rs t
    suggestions (evaluations rs t) =
        ⟨templates ms, accounts ms, (autoBook? ms).map Match.evaluation⟩ ∧
      (ms.map (·.rule)).Perm (rs.filter (·.fires t)) ∧
      (autoBook? ms = none ↔ ∀ r ∈ rs, r.books t = false) ∧
      (autoBook? ms = none ∨ ∃ m, autoBook? ms = some m ∧ IsDecision rs t m) ∧
      templates ms = (ms.filter (·.rule.action = .suggestTemplate)).map (·.rule.target) ∧
      List.Forall₂ (fun (m : Match) n => WritesAccount m.rule.target n)
        (ms.filter fun m => m.rule.action = .suggestAccount ∧ ∃ n, WritesAccount m.rule.target n)
        (accounts ms) := by
  refine ⟨suggestions_map_evaluation _, map_rule_findMatches_perm rs t,
    autoBook?_eq_none_iff rs t, ?_, rfl, forall₂_accounts _⟩
  cases h : autoBook? (findMatches rs t) with
  | none => exact Or.inl rfl
  | some m => exact Or.inr ⟨m, rfl, isDecision_of_autoBook? h⟩

end PostingRules
