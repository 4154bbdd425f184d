import Mathlib.Order.Lattice
import Mathlib.Data.List.Basic

/-!
# Stable sorting by rank

* `IsStableSort`: a list in descending order of rank, in which members of equal rank keep the order
  they had;
* **`isStableSort_mergeSort`**: `List.mergeSort` sorts so;
* `IsStableSort.pairwise_of_ties`: what orders ties before the sort orders them after it;
* **`IsStableSort.eq`**: a list has one stable sort;
* `IsStableSort.filter`, `IsStableSort.map`, `IsStableSort.of_le_iff`: sorting some of the members,
  sorting what is made of others, and ranks that compare alike;
* `IsStableSort.exists_eq_cons`: a member of a higher rank than all others comes first;
* **`IsStableSort.find?_eq_some`**: the first member with a property is the one of the highest rank,
  and of several the one that came first.
-/

namespace PostingRules

variable {α κ : Type} [LinearOrder κ] {rank : α → κ}

/-- **The list `sorted` is `l` in descending order of rank**, and for every rank the members of that
rank stand in the order they have in `l`. -/
structure IsStableSort (rank : α → κ) (l sorted : List α) : Prop where
  perm : sorted.Perm l
  descending : sorted.Pairwise fun a b => rank b ≤ rank a
  stable : ∀ k, sorted.filter (rank · = k) = l.filter (rank · = k)

theorem filter_mergeSort {le : α → α → Bool} (trans : ∀ a b c, le a b → le b c → le a c)
    (total : ∀ a b, le a b || le b a) {p : α → Bool} (hp : ∀ a b, p a → p b → le a b) (l : List α) :
    (l.mergeSort le).filter p = l.filter p := by
  have hle : (l.filter p).Pairwise (le · ·) :=
    List.pairwise_of_forall_mem_list fun a ha b hb =>
      hp a b (List.of_mem_filter ha) (List.of_mem_filter hb)
  -- the members with `p` are in order already, so the sort keeps them as a sublist
  have hsub : (l.filter p).Sublist (l.mergeSort le) :=
    List.sublist_mergeSort trans total hle List.filter_sublist
  have h := hsub.filter p
  rw [List.filter_filter] at h
  simp only [Bool.and_self] at h
  exact (h.eq_of_length ((List.mergeSort_perm l le).filter p).length_eq.symm).symm

/-- **Merge sort is a stable sort** wherever its comparison is that of ranks. -/
theorem isStableSort_mergeSort {le : α → α → Bool} (hle : ∀ a b, le a b = true ↔ rank b ≤ rank a)
    (l : List α) : IsStableSort rank l (l.mergeSort le) := by
  have trans : ∀ a b c, le a b → le b c → le a c := fun a b c hab hbc =>
    (hle a c).mpr (le_trans ((hle b c).mp hbc) ((hle a b).mp hab))
  have total : ∀ a b, le a b || le b a := fun a b => by
    rw [Bool.or_eq_true, hle, hle]
    exact le_total _ _
  refine ⟨List.mergeSort_perm l le, ?_, fun k => ?_⟩
  · exact (List.pairwise_mergeSort trans total l).imp fun h => (hle _ _).mp h
  · refine filter_mergeSort trans total (fun a b ha hb => (hle a b).mpr ?_) l
    rw [of_decide_eq_true ha, of_decide_eq_true hb]

namespace IsStableSort

variable {l sorted : List α}

/-- **Ties keep their order.** -/
theorem pairwise_of_ties (h : IsStableSort rank l sorted) {Q : α → α → Prop}
    (hl : l.Pairwise fun a b => rank a = rank b → Q a b) :
    sorted.Pairwise fun a b => rank b < rank a ∨ rank a = rank b ∧ Q a b := by
  rw [List.pairwise_iff_forall_sublist]
  intro a b hab
  have hle : rank b ≤ rank a := List.pairwise_iff_forall_sublist.mp h.descending hab
  rcases lt_or_eq_of_le hle with hlt | heq
  · exact Or.inl hlt
  · have hs : [a, b].Sublist (l.filter (rank · = rank a)) := by
      have := hab.filter (rank · = rank a)
      rw [h.stable] at this
      simpa [heq] using this
    exact Or.inr ⟨heq.symm,
      List.pairwise_iff_forall_sublist.mp hl (hs.trans List.filter_sublist) heq.symm⟩

theorem mem_iff_of_filter_rank_eq {l₁ l₂ : List α}
    (h : ∀ k, l₁.filter (rank · = k) = l₂.filter (rank · = k)) {a : α} : a ∈ l₁ ↔ a ∈ l₂ := by
  have ha := congrArg (a ∈ ·) (h (rank a))
  simpa [List.mem_filter] using ha

theorem rank_le_of_mem_cons {a c : α} {l : List α}
    (h : (a :: l).Pairwise fun a b => rank b ≤ rank a) (hc : c ∈ a :: l) : rank c ≤ rank a := by
  rcases List.mem_cons.mp hc with rfl | hc
  · exact le_rfl
  · exact List.rel_of_pairwise_cons h hc

theorem eq_of_filter_rank_eq {l₁ l₂ : List α} (h₁ : l₁.Pairwise fun a b => rank b ≤ rank a)
    (h₂ : l₂.Pairwise fun a b => rank b ≤ rank a)
    (h : ∀ k, l₁.filter (rank · = k) = l₂.filter (rank · = k)) : l₁ = l₂ := by
  induction l₁ generalizing l₂ with
  | nil =>
    cases l₂ with
    | nil => rfl
    | cons b l₂ => exact absurd ((mem_iff_of_filter_rank_eq h).mpr List.mem_cons_self) (by simp)
  | cons a l₁ ih =>
    cases l₂ with
    | nil => exact absurd ((mem_iff_of_filter_rank_eq h).mp List.mem_cons_self) (by simp)
    | cons b l₂ =>
      -- both heads have the highest rank, so both are the head of its filtered list
      have hrank : rank b = rank a := by
        have hb := (mem_iff_of_filter_rank_eq h).mpr (List.mem_cons_self : b ∈ b :: l₂)
        have ha := (mem_iff_of_filter_rank_eq h).mp (List.mem_cons_self : a ∈ a :: l₁)
        exact le_antisymm (rank_le_of_mem_cons h₁ hb) (rank_le_of_mem_cons h₂ ha)
      have hhead := h (rank a)
      rw [List.filter_cons_of_pos (by simp), List.filter_cons_of_pos (by simp [hrank])] at hhead
      obtain rfl : a = b := (List.cons.inj hhead).1
      have htail : ∀ k, l₁.filter (rank · = k) = l₂.filter (rank · = k) := by
        intro k
        have hk := h k
        by_cases ha : rank a = k
        · rw [List.filter_cons_of_pos (by simp [ha]), List.filter_cons_of_pos (by simp [ha])] at hk
          exact (List.cons.inj hk).2
        · rwa [List.filter_cons_of_neg (by simp [ha]), List.filter_cons_of_neg (by simp [ha])] at hk
      rw [ih (List.pairwise_cons.mp h₁).2 (List.pairwise_cons.mp h₂).2 htail]

/-- **A list has one stable sort.** -/
theorem eq {sorted' : List α} (h : IsStableSort rank l sorted) (h' : IsStableSort rank l sorted') :
    sorted = sorted' :=
  eq_of_filter_rank_eq h.descending h'.descending fun k => (h.stable k).trans (h'.stable k).symm

theorem filter (h : IsStableSort rank l sorted) (p : α → Bool) :
    IsStableSort rank (l.filter p) (sorted.filter p) := by
  refine ⟨h.perm.filter p, h.descending.filter p, fun k => ?_⟩
  rw [List.filter_comm, h.stable, List.filter_comm]

theorem map {β : Type} {f : β → α} {l sorted : List β} (h : IsStableSort (rank ∘ f) l sorted) :
    IsStableSort rank (l.map f) (sorted.map f) := by
  refine ⟨h.perm.map f, List.pairwise_map.mpr h.descending, fun k => ?_⟩
  rw [List.filter_map, List.filter_map]
  exact congrArg (List.map f) (h.stable k)

/-- Ranks that compare alike sort alike. -/
theorem of_le_iff {κ' : Type} [LinearOrder κ'] {rank' : α → κ'} (h : IsStableSort rank l sorted)
    (hle : ∀ a ∈ l, ∀ b ∈ l, rank a ≤ rank b ↔ rank' a ≤ rank' b) :
    IsStableSort rank' l sorted := by
  have hmem : ∀ {a}, a ∈ sorted → a ∈ l := h.perm.mem_iff.mp
  have heq : ∀ a ∈ l, ∀ b ∈ l, rank a = rank b ↔ rank' a = rank' b := fun a ha b hb => by
    rw [le_antisymm_iff, le_antisymm_iff, hle a ha b hb, hle b hb a ha]
  refine ⟨h.perm, h.descending.imp_of_mem fun ha hb hab => (hle _ (hmem hb) _ (hmem ha)).mp hab,
    fun k => ?_⟩
  by_cases hk : ∃ a ∈ l, rank' a = k
  · obtain ⟨a, ha, rfl⟩ := hk
    have hcongr : ∀ l' : List α, (∀ b ∈ l', b ∈ l) →
        l'.filter (rank' · = rank' a) = l'.filter (rank · = rank a) := fun l' hl' =>
      List.filter_congr fun b hb => by rw [decide_eq_decide, heq b (hl' b hb) a ha]
    rw [hcongr sorted fun b hb => hmem hb, hcongr l fun b hb => hb, h.stable]
  · have hnil : ∀ l' : List α, (∀ b ∈ l', b ∈ l) → l'.filter (rank' · = k) = [] := fun l' hl' =>
      List.filter_eq_nil_iff.mpr fun b hb hbk => hk ⟨b, hl' b hb, of_decide_eq_true hbk⟩
    rw [hnil sorted fun b hb => hmem hb, hnil l fun b hb => hb]

/-- A member of a higher rank than all others comes first. -/
theorem exists_eq_cons (h : IsStableSort rank l sorted) {a : α} (ha : a ∈ l)
    (hmax : ∀ b ∈ l, b ≠ a → rank b < rank a) : ∃ rest, sorted = a :: rest := by
  have hmem := h.perm.mem_iff.mpr ha
  cases sorted with
  | nil => exact absurd hmem List.not_mem_nil
  | cons b rest =>
    refine ⟨rest, ?_⟩
    by_contra hne
    have hba : b ≠ a := fun e => hne (by rw [e])
    have hlt := hmax b (h.perm.mem_iff.mp List.mem_cons_self) hba
    have harest : a ∈ rest := (List.mem_cons.mp hmem).resolve_left (Ne.symm hba)
    exact absurd (List.rel_of_pairwise_cons h.descending harest) (not_le.mpr hlt)

/-- **The first member with `p`** after a stable sort is one of the highest rank, and the first of
those before the sort. -/
theorem find?_eq_some (h : IsStableSort rank l sorted) {p : α → Bool} {m : α}
    (hm : sorted.find? p = some m) :
    ∃ before after, l = before ++ m :: after ∧ p m ∧
      (∀ a ∈ before, p a → rank a < rank m) ∧ ∀ a ∈ after, p a → rank a ≤ rank m := by
  obtain ⟨hpm, front, rest, hsorted, hfront⟩ := List.find?_eq_some_iff_append.mp hm
  have hmax : ∀ a ∈ l, p a → rank a ≤ rank m := by
    intro a ha hpa
    have hd := h.descending
    have ha' := h.perm.mem_iff.mpr ha
    rw [hsorted] at hd ha'
    rcases List.mem_append.mp ha' with hf | hr
    · exact absurd hpa (by simpa using hfront a hf)
    · rcases List.mem_cons.mp hr with rfl | hr
      · exact le_rfl
      · exact List.rel_of_pairwise_cons (List.pairwise_append.mp hd).2.1 hr
  -- among the members of the rank of `m` the order is the old one
  have hties : l.find? (fun a => p a && decide (rank a = rank m)) = some m := by
    rw [← List.head?_filter, ← List.filter_filter, ← h.stable, List.filter_filter,
      List.head?_filter, List.find?_eq_some_iff_append]
    refine ⟨by simp [hpm], front, rest, hsorted, fun a ha => ?_⟩
    rw [Bool.not_and, Bool.or_eq_true]
    exact Or.inl (hfront a ha)
  obtain ⟨-, before, after, hl, hbefore⟩ := List.find?_eq_some_iff_append.mp hties
  refine ⟨before, after, hl, hpm, fun a ha hpa => ?_, fun a ha hpa => ?_⟩
  · have hne : rank a ≠ rank m := fun e => by
      have := hbefore a ha
      simp [hpa, e] at this
    exact lt_of_le_of_ne (hmax a (by rw [hl]; exact List.mem_append_left _ ha) hpa) hne
  · exact hmax a (by rw [hl]; exact List.mem_append_right _ (List.mem_cons_of_mem _ ha)) hpa

end IsStableSort

end PostingRules
