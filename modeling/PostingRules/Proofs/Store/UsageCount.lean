import PostingRules.Proofs.Store.History

/-!
# Counts of uses and the history behind them

* `isUse`, `uses`: which call counts as a use of a rule, and how many of a history do;
* `unused_or_used`, `usage_of_becomes`: what a call does to the count and the last match of a row;
* `Creates`, `UsedSinceCreation`: a call of a history stores the row that is there behind it, and how
  often the row was used since;
* `usedSinceCreation_newRow`, `UsedSinceCreation.concat`: a new row, and a row behind one more call;
* `usedSinceCreation_of_mem_after`: the count of a row is the number of its uses since its creation;
* `usage_kept`: other calls leave the count and the last match alone;
* **`usageCount_eq_uses`**: both, for every history.
-/

namespace PostingRules.Store

open PostingRules.Text

variable {ws : String} {id : Int} {c : Call} {s : Store} {r r' : Row}

/-! ## Uses -/

/-- **Does the call count as a use of the rule?** It does if it is one in the workspace of the rule and
either answers the rule or fails only because the priority of the row is a floating number. -/
def isUse (ws : String) (id : Int) (s : Store) : String × Call → Bool
  | (ws', .recordMatch id' now) => ws' = ws && id' = id &&
    ((recordMatch ws id now s).1.isOk || (s.find? ws id).any fun r =>
      r.priority = .float && (prioritized 0 (used now r)).read.isOk)
  | _ => false

/-- **The number of uses of a rule** in a history that begins with the table `s`. -/
def uses (ws : String) (id : Int) : Store → History → Nat
  | _, [] => 0
  | s, x :: h => (if isUse ws id s x then 1 else 0) + uses ws id (x.2.run x.1 s).2 h

theorem uses_concat (s : Store) (h : History) (x : String × Call) : uses ws id s (h ++ [x]) =
    uses ws id s h + if isUse ws id (s.follow h) x then 1 else 0 := by
  induction h generalizing s with
  | nil =>
    rw [List.nil_append, uses, uses, uses, Nat.add_zero, Nat.zero_add]
    rfl
  | cons y h ih => rw [List.cons_append, uses, ih, uses, follow_cons, Nat.add_assoc]

theorem exists_of_isUse {x : String × Call} (h : isUse ws id s x = true) :
    ∃ now, x = (ws, .recordMatch id now) := by
  obtain ⟨ws', c⟩ := x
  cases c with
  | recordMatch id' now =>
    rw [isUse, Bool.and_eq_true, Bool.and_eq_true, decide_eq_true_eq, decide_eq_true_eq] at h
    obtain ⟨⟨rfl, rfl⟩, -⟩ := h
    exact ⟨now, rfl⟩
  | _ => cases h

/-- A use of a valid row is counted unless the count is at its end. -/
theorem isUse_of_valid (hvalid : r.Valid) (hr : r ∈ s.rows) {now : Stamp} {n : Int}
    (hn : (used now r).usageCount = .int n) :
    isUse r.workspace r.id s (r.workspace, .recordMatch r.id now) = true := by
  have hfind : s.find? r.workspace r.id = some r := find?_eq_some_iff.mpr ⟨hr, rfl, rfl⟩
  obtain ⟨k, hk⟩ := hvalid.condition
  obtain ⟨a, ha⟩ := hvalid.action
  simp only [isUse, decide_true, Bool.true_and, recordMatch_of_some hfind, hfind, Option.any_some]
  cases hp : r.priority with
  | int p =>
    have hint : (used now r).Integral := Row.integral_iff.mpr ⟨p, n, hp, hn⟩
    obtain ⟨x, hx⟩ := hint.exists_reads hk ha
    rw [read_eq_ok_iff.mpr hx]
    rfl
  | float =>
    have hint : (prioritized 0 (used now r)).Integral := Row.integral_iff.mpr ⟨0, n, rfl, hn⟩
    obtain ⟨x, hx⟩ := hint.exists_reads hk ha
    rw [read_eq_ok_iff.mpr hx]
    simp [Except.isOk, Except.toBool]

/-- **A call leaves the count and the last match of a row**, or it records a match of the row. -/
theorem unused_or_used (h : r.Becomes ws c (some r')) :
    ((∀ now, (ws, c) ≠ (r.workspace, .recordMatch r.id now)) ∧
      r'.usageCount = r.usageCount ∧ r'.lastMatch = r.lastMatch) ∨
    ∃ now, (ws, c) = (r.workspace, .recordMatch r.id now) ∧ r' = used now r := by
  cases h with
  | kept hkept =>
    exact Or.inl ⟨fun now e => hkept (Prod.mk.inj e).1.symm now (Prod.mk.inj e).2, rfl, rfl⟩
  | overwritten _ hc new _ =>
    refine Or.inl ⟨fun now e => ?_, rfl, rfl⟩
    rw [(Prod.mk.inj e).2] at hc
    exact hc
  | prioritized _ ps hc p _ =>
    refine Or.inl ⟨fun now e => ?_, rfl, rfl⟩
    rw [(Prod.mk.inj e).2] at hc
    cases hc
  | used hws now hc => exact Or.inr ⟨now, by rw [hws, hc], rfl⟩

/-- **A use counts one and sets the last match**, and every other call leaves both. -/
theorem usage_of_becomes (hvalid : r.Valid) (hr : r ∈ s.rows) (h : r.Becomes ws c (some r')) {n : Int}
    (hn : r'.usageCount = .int n) : ∃ m, r.usageCount = .int m ∧
      n = m + (if isUse r.workspace r.id s (ws, c) then 1 else 0) ∧
      (r'.lastMatch.isSome = true ↔
        isUse r.workspace r.id s (ws, c) = true ∨ r.lastMatch.isSome = true) := by
  rcases unused_or_used h with ⟨hc, hcount, hlast⟩ | ⟨now, hc, rfl⟩
  · have hfalse : isUse r.workspace r.id s (ws, c) = false :=
      Bool.eq_false_iff.mpr fun huse => (exists_of_isUse huse).elim hc
    exact ⟨n, hcount.symm.trans hn, by simp [hfalse], by simp [hfalse, hlast]⟩
  · have huse : isUse r.workspace r.id s (ws, c) = true := by
      rw [hc]
      exact isUse_of_valid hvalid hr hn
    cases hcount : r.usageCount with
    | float =>
      simp only [used, hcount, Numeral.succ] at hn
      cases hn
    | int m =>
      simp only [used, hcount, Numeral.succ] at hn
      split at hn
      · cases hn
      · exact ⟨m, rfl, by rw [if_pos huse, Numeral.int.inj hn], by simp [huse, used]⟩

/-! ## Creation -/

/-- **A call stores the rule that is there behind a history**: no row has the id in front of the call,
and one of the workspace has it at every moment since. -/
structure Creates (ws : String) (id : Int) (before : History) (new : NewRule) (since : History) :
    Prop where
  absent : ∀ r ∈ (after before).rows, r.id ≠ id
  present : ∀ h, h <+: since → (after (before ++ (ws, .create new) :: h)).Has ws id

theorem Creates.concat {before since : History} {new : NewRule} (h : Creates ws id before new since)
    {x : String × Call}
    (hx : (after (before ++ (ws, .create new) :: (since ++ [x]))).Has ws id) :
    Creates ws id before new (since ++ [x]) where
  absent := h.absent
  present h' hprefix := by
    rcases List.prefix_concat_iff.mp hprefix with rfl | hprefix
    · exact hx
    · exact h.present h' hprefix

/-- The number of uses of a rule behind the call that stores it. -/
def usesSince (ws : String) (id : Int) (before : History) (new : NewRule) (since : History) : Nat :=
  uses ws id (after (before ++ [(ws, .create new)])) since

theorem usesSince_concat (before : History) (new : NewRule) (since : History) (x : String × Call) :
    usesSince ws id before new (since ++ [x]) = usesSince ws id before new since +
      if isUse ws id (after (before ++ (ws, .create new) :: since)) x then 1 else 0 := by
  rw [usesSince, uses_concat, ← after_append, List.append_assoc]
  rfl

/-- **The row was used `n` times** in the history since the call that stored it, and its last match is
set if it was used at all. -/
def UsedSinceCreation (h : History) (r : Row) (n : Int) : Prop :=
  ∃ before new since, h = before ++ (r.workspace, .create new) :: since ∧
    Creates r.workspace r.id before new since ∧
    n = usesSince r.workspace r.id before new since ∧
    (r.lastMatch.isSome = true ↔ 0 < usesSince r.workspace r.id before new since)

theorem usedSinceCreation_newRow (h : History) (ws : String) (new : NewRule)
    (hmem : (after h).newRow ws new ∈ (after (h ++ [(ws, .create new)])).rows) :
    UsedSinceCreation (h ++ [(ws, .create new)]) ((after h).newRow ws new) 0 := by
  refine ⟨h, new, [], rfl, ⟨fun r hr e => ?_, fun h' hprefix => ?_⟩, rfl, ?_⟩
  · exact nextId_notMem _ (List.mem_map.mpr ⟨r, hr, e⟩)
  · rw [List.prefix_nil.mp hprefix]
    exact ⟨_, hmem, rfl, rfl⟩
  · exact iff_of_false nofun (Nat.lt_irrefl 0)

theorem UsedSinceCreation.concat {h : History} {x : String × Call} {m n : Int}
    (hused : UsedSinceCreation h r m) (hmem : r' ∈ (after (h ++ [x])).rows) (hid : r'.id = r.id)
    (hws : r'.workspace = r.workspace)
    (hn : n = m + if isUse r.workspace r.id (after h) x then 1 else 0)
    (hlast : r'.lastMatch.isSome = true ↔
      isUse r.workspace r.id (after h) x = true ∨ r.lastMatch.isSome = true) :
    UsedSinceCreation (h ++ [x]) r' n := by
  obtain ⟨before, new, since, rfl, hcreates, hm, hlastm⟩ := hused
  have hhas : (after (before ++ (r.workspace, .create new) :: (since ++ [x]))).Has r.workspace r.id := by
    rw [← List.cons_append, ← List.append_assoc]
    exact ⟨r', hmem, hid, hws⟩
  rw [hlastm] at hlast
  rw [UsedSinceCreation, hid, hws, hlast, hn, hm]
  refine ⟨before, new, since ++ [x], by simp, hcreates.concat hhas, ?_, ?_⟩
  · rw [usesSince_concat]
    split <;> rfl
  · rw [usesSince_concat]
    split
    · rename_i huse
      simp [huse]
    · rename_i huse
      simp [huse]

/-- **The count of a row is the number of its uses since its creation.** -/
theorem usedSinceCreation_of_mem_after (h : History) :
    ∀ r ∈ (after h).rows, ∀ n, r.usageCount = .int n → UsedSinceCreation h r n := by
  induction h using List.reverseRecOn with
  | nil => exact fun r hr => absurd hr List.not_mem_nil
  | append_singleton h x ih =>
    intro r' hmem n hn
    obtain ⟨ws, c⟩ := x
    rcases (run_changes ws c (after h)).comes r' (after_concat h (ws, c) ▸ hmem) with
      ⟨r, hr, hbecomes⟩ | ⟨new, rfl, -, rfl⟩
    · -- the row was there before the last call, and so was its creation
      obtain ⟨m, hm, hcount, hlast⟩ :=
        usage_of_becomes (valid_of_mem_after h r hr) hr hbecomes hn
      exact (ih r hr m hm).concat hmem hbecomes.id_eq hbecomes.workspace_eq hcount hlast
    · -- the last call is the creation
      rw [← Numeral.int.inj hn]
      exact usedSinceCreation_newRow h ws new hmem

/-! ## Other calls -/

/-- **A call that is neither a use of a rule nor its removal** leaves its count and its last match. -/
theorem usage_kept (hr : r ∈ s.rows) (huse : ∀ now, (ws, c) ≠ (r.workspace, .recordMatch r.id now))
    (hdelete : (ws, c) ≠ (r.workspace, .delete r.id)) :
    ∃ r' ∈ (c.run ws s).2.rows, r'.id = r.id ∧ r'.workspace = r.workspace ∧
      r'.usageCount = r.usageCount ∧ r'.lastMatch = r.lastMatch := by
  rcases (run_changes ws c s).becomes r hr with hnone | ⟨r', hr', hbecomes⟩
  · cases hnone with
    | removed hws hc => exact absurd (by rw [hws, hc]) hdelete
  · refine ⟨r', hr', hbecomes.id_eq, hbecomes.workspace_eq, ?_⟩
    rcases unused_or_used hbecomes with ⟨-, hkept⟩ | ⟨now, hc, -⟩
    · exact hkept
    · exact absurd hc (huse now)

/-- **The count of a row** behind every history is the number of uses since the call that stored it,
and its last match is set if there is one. A call that is neither a use of a rule nor its removal
leaves its count and its last match. -/
theorem usageCount_eq_uses :
    (∀ h, ∀ r ∈ (after h).rows, ∀ n, r.usageCount = .int n → UsedSinceCreation h r n) ∧
    ∀ s ws c, ∀ r ∈ Store.rows s, (∀ now, (ws, c) ≠ (r.workspace, .recordMatch r.id now)) →
      (ws, c) ≠ (r.workspace, .delete r.id) → ∃ r' ∈ (Call.run ws c s).2.rows, r'.id = r.id ∧
        r'.workspace = r.workspace ∧ r'.usageCount = r.usageCount ∧ r'.lastMatch = r.lastMatch :=
  ⟨usedSinceCreation_of_mem_after, fun _ _ _ _ hr huse hdelete => usage_kept hr huse hdelete⟩

/-- A history in which the id of a rule is used again, and the rule is used, switched off and used. -/
def reusedId : History :=
  [("acme", .create (rentRule none)), ("acme", .recordMatch 1 5), ("acme", .delete 1),
    ("acme", .create (rentRule none)), ("acme", .recordMatch 1 8), ("other", .recordMatch 1 9),
    ("acme", .setActive 1 false), ("acme", .recordMatch 1 10)]

/-- The row that this history leaves. -/
def reusedRow : Row :=
  ⟨1, "acme", "rent", none, .int 1, false, "contains", "rent", "auto_book", "4", .int 2, some 10⟩

theorem usageCount_eq_uses_reusedId :
    (reusedRow ∈ (after reusedId).rows ∧ UsedSinceCreation reusedId reusedRow 2) ∧
    ∃ r' ∈ (Call.run "other" (.recordMatch 1 11) (after reusedId)).2.rows, r'.id = 1 ∧
      r'.workspace = "acme" ∧ r'.usageCount = .int 2 ∧ r'.lastMatch = some 10 := by
  have hrow : reusedRow ∈ (after reusedId).rows := by decide
  refine ⟨⟨hrow, usageCount_eq_uses.1 reusedId reusedRow hrow 2 rfl⟩, ?_⟩
  exact usageCount_eq_uses.2 (after reusedId) "other" (.recordMatch 1 11) reusedRow hrow
    (fun now e => absurd (Prod.mk.inj e).1 (by decide))
    fun e => absurd (Prod.mk.inj e).1 (by decide)

end PostingRules.Store
