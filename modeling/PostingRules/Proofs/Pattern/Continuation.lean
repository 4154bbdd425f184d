import PostingRules.Proofs.Pattern.Classes

/-!
# Patterns that go on

What is written behind a pattern may change how its last token is read, since three tokens look ahead:
a class that is not closed, a brace whose count is not closed, and a group whose flags have no colon
yet. Nothing but literals stands behind them, so the screening has no objection there to lose.

* `classLength_append`, `countLength?_append`, `isNonCapturing_append`: how far each of them reaches
  when the pattern goes on;
* `Token.IsIdle`: a token that is never refused;
* `token_class_append`, `token_paren_append`, `token_brace_append`, `token_append`: a token is read as
  before, or only idle tokens are left;
* `scan_append`: an objection of the scan stays;
* **`rejection?_append`**: a pattern that is refused stays refused for the same reason, and every
  beginning of a pattern that is not refused is not refused.
-/

namespace PostingRules.Guard

open PostingRules.Text PostingRules.PatternReader

variable {cs : List Char}

/-! ## Classes -/

theorem classTail_le (depth : Nat) (cs : List Char) : classTail depth cs ≤ cs.length := by
  fun_induction classTail depth cs <;> simp only [List.length_cons, List.length_nil] <;> omega

/-- A character that is no backslash, neither at the end nor with a character behind it. -/
theorem ne_backslash {c : Char} (hlast : c = '\\' → cs = [] → False)
    (hescape : ∀ d tail, c = '\\' → cs = d :: tail → False) : c ≠ '\\' := by
  rintro rfl
  cases cs with
  | nil => exact hlast rfl rfl
  | cons d tail => exact hescape d tail rfl rfl

/-- A class that is closed before the text ends is closed there however the text goes on. -/
theorem classTail_append {depth : Nat} (h : classTail depth cs < cs.length) (more : List Char) :
    classTail depth (cs ++ more) = classTail depth cs := by
  fun_induction classTail depth cs with
  | case1 | case2 => simp at h
  | case3 | case4 | case5 | case6 => simp_all [classTail]
  | case7 depth c cs hlast hescape hopen hclose ih =>
    rw [List.cons_append, classTail_cons (ne_backslash hlast hescape) hopen hclose,
      ih (by simpa using h)]

theorem passOver_length (c : Char) (cs : List Char) :
    (passOver c cs).1 + (passOver c cs).2.length = cs.length := by
  unfold passOver
  split
  · split <;> simp [Nat.add_comm]
  · rfl

theorem passOver_append (c : Char) (h : cs ≠ []) (more : List Char) :
    passOver c (cs ++ more) = ((passOver c cs).1, (passOver c cs).2 ++ more) := by
  obtain ⟨x, cs, rfl⟩ := List.exists_cons_of_ne_nil h
  rw [List.cons_append, passOver, passOver]
  split <;> rfl

theorem classLength_le (cs : List Char) : classLength cs ≤ cs.length := by
  have hcaret := passOver_length '^' cs
  have hbracket := passOver_length ']' (passOver '^' cs).2
  have htail := classTail_le 0 (passOver ']' (passOver '^' cs).2).2
  unfold classLength
  dsimp only
  omega

/-- **A class** that is closed before the text ends. -/
theorem classLength_append (h : classLength cs < cs.length) (more : List Char) :
    classLength (cs ++ more) = classLength cs := by
  have hcaret := passOver_length '^' cs
  have hbracket := passOver_length ']' (passOver '^' cs).2
  unfold classLength at h ⊢
  dsimp only at h ⊢
  have htail : classTail 0 (passOver ']' (passOver '^' cs).2).2 <
      (passOver ']' (passOver '^' cs).2).2.length := by omega
  have hne : (passOver '^' cs).2 ≠ [] := by
    intro hnil
    rw [hnil] at hbracket htail
    simp only [List.length_nil] at hbracket
    omega
  have hcs : cs ≠ [] := by
    rintro rfl
    exact hne rfl
  rw [passOver_append '^' hcs, passOver_append ']' hne, classTail_append htail]

/-! ## Repetition counts -/

theorem IsCount.not_special {w : List Char} (h : IsCount w) : ∀ c ∈ w, c ∉ specials := fun c hc =>
  not_mem_specials (p := fun c => isDigit c || c = ',') (by decide) (h.all c hc)

theorem countLength?_le {n : Nat} (h : countLength? cs = some n) : n ≤ cs.length := by
  obtain ⟨w, rest, rfl, -, rfl⟩ := isCount_of_countLength? h
  simp

/-- **A repetition count** stays one, and a brace that opens none becomes one only where the text ends
inside it. -/
theorem countLength?_append (cs more : List Char) :
    countLength? (cs ++ more) = countLength? cs ∨
      countLength? cs = none ∧ ∀ c ∈ cs, c ∉ specials := by
  cases hcs : countLength? cs with
  | some n =>
    obtain ⟨w, rest, rfl, hw, rfl⟩ := isCount_of_countLength? hcs
    rw [List.append_assoc, List.cons_append]
    exact .inl (countLength?_of_isCount hw _)
  | none =>
    cases hmore : countLength? (cs ++ more) with
    | none => exact .inl rfl
    | some n =>
      obtain ⟨w, rest, heq, hw, -⟩ := isCount_of_countLength? hmore
      rcases List.append_eq_append_iff.mp heq with ⟨mid, rfl, -⟩ | ⟨mid, rfl, hmid⟩
      · exact .inr ⟨rfl, fun c hc => hw.not_special c (List.mem_append_left _ hc)⟩
      · rcases List.cons_eq_append_iff.mp hmid with ⟨rfl, -⟩ | ⟨tail, rfl, -⟩
        · rw [List.append_nil]
          exact .inr ⟨rfl, hw.not_special⟩
        · rw [countLength?_of_isCount hw] at hcs
          cases hcs

/-! ## Flags -/

/-- **The flags of a group** have an end in the text, or nothing but flags is left. -/
theorem isNonCapturing_append (cs more : List Char) :
    isNonCapturing ('?' :: (cs ++ more)) = isNonCapturing ('?' :: cs) ∨
      ∀ c ∈ cs, c ∉ specials := by
  by_cases hflags : ∀ c ∈ cs, isFlagChar c = true
  · exact .inr fun c hc => not_mem_specials (by decide) (hflags c hc)
  · refine .inl ?_
    obtain ⟨c, rest, hdrop⟩ : ∃ c rest, cs.dropWhile isFlagChar = c :: rest := by
      rw [← List.ne_nil_iff_exists_cons, ne_eq, List.dropWhile_eq_nil_iff]
      exact hflags
    rw [isNonCapturing, isNonCapturing, List.dropWhile_append, hdrop]
    simp

/-! ## Tokens -/

/-- The token is never refused, whatever stands before it. -/
def Token.IsIdle (t : Token) : Prop := t = .literal ∨ ∃ n, t = .opening n

theorem scan_idle {s : Shape} {ts : List Token} (h : ∀ t ∈ ts, t.IsIdle) : scan s ts = none := by
  induction ts generalizing s with
  | nil => rfl
  | cons t ts ih =>
    rw [List.forall_mem_cons] at h
    rcases h.1 with rfl | ⟨n, rfl⟩ <;> exact ih h.2

theorem tokens_literals (h : ∀ c ∈ cs, c ∉ specials) :
    tokens cs = List.replicate cs.length .literal := by
  have hcuts := cuts_literals h []
  rw [List.append_nil] at hcuts
  exact (cuts_iff.mp hcuts).symm

theorem isIdle_literals (h : ∀ c ∈ cs, c ∉ specials) : ∀ t ∈ tokens cs, t.IsIdle := by
  rw [tokens_literals h]
  exact fun t ht => .inl (List.eq_of_mem_replicate ht)

theorem token_length_le (c : Char) (cs : List Char) : (token c cs).2 ≤ cs.length := by
  unfold token
  split
  · exact Nat.min_le_right 1 _
  · exact classLength_le cs
  · split
    · next h =>
      obtain ⟨tail, rfl⟩ := List.head?_eq_some_iff.mp h
      simp
    · exact Nat.zero_le _
  · exact Nat.zero_le _
  · exact Nat.zero_le _
  · exact Nat.zero_le _
  · split
    · next h => exact countLength?_le h
    · exact Nat.zero_le _
  · exact Nat.zero_le _
  · exact Nat.zero_le _

theorem token_class_append (cs more : List Char) :
    token '[' (cs ++ more) = token '[' cs ∨ ∀ t ∈ tokens ('[' :: cs), t.IsIdle := by
  rcases Nat.lt_or_ge (classLength cs) cs.length with h | h
  · exact .inl (by rw [token, token, classLength_append h])
  · refine .inr ?_
    rw [tokens_cons, token, List.drop_eq_nil_of_le h]
    simp [tokens, tokensFrom, Token.IsIdle]

theorem token_paren_append (cs more : List Char) :
    token '(' (cs ++ more) = token '(' cs ∨ ∀ t ∈ tokens ('(' :: cs), t.IsIdle := by
  rcases cs with _ | ⟨d, cs⟩
  · exact .inr (by simp [token, tokens, tokensFrom, Token.IsIdle])
  by_cases hd : d = '?'
  · subst hd
    rcases isNonCapturing_append cs more with h | h
    · exact .inl (by simp [token, h])
    · refine .inr ?_
      rw [tokens_cons, List.forall_mem_cons]
      exact ⟨.inr ⟨_, rfl⟩, isIdle_literals (by simpa [token] using h)⟩
  · have hhead : ∀ tail, (d :: tail).head? ≠ some '?' := fun tail => by simpa using hd
    refine .inl ?_
    rw [List.cons_append, token, token, isNonCapturing_of_head (hhead _),
      isNonCapturing_of_head (hhead _), List.head?_cons, List.head?_cons]

theorem token_brace_append (cs more : List Char) :
    token '{' (cs ++ more) = token '{' cs ∨ ∀ t ∈ tokens ('{' :: cs), t.IsIdle := by
  rcases countLength?_append cs more with h | ⟨hnone, h⟩
  · exact .inl (by rw [token, token, h])
  · refine .inr ?_
    rw [tokens_cons, token, hnone]
    exact List.forall_mem_cons.mpr ⟨.inl rfl, isIdle_literals h⟩

/-- **A token is read as before** when the text goes on, or nothing is left that could be refused. -/
theorem token_append (c : Char) (cs more : List Char) :
    token c (cs ++ more) = token c cs ∨ ∀ t ∈ tokens (c :: cs), t.IsIdle := by
  by_cases hc : c ∈ specials
  · simp only [specials, List.mem_cons, List.not_mem_nil, or_false] at hc
    rcases hc with rfl | rfl | rfl | rfl | rfl | rfl | rfl | rfl
    · -- a backslash takes what stands behind it, and at the end of the text nothing
      cases cs with
      | nil => exact .inr (by simp [token, tokens, tokensFrom, Token.IsIdle])
      | cons d cs => exact .inl (by simp [token])
    · exact token_class_append cs more
    · exact token_paren_append cs more
    · exact .inl rfl
    · exact .inl rfl
    · exact .inl rfl
    · exact token_brace_append cs more
    · exact .inl rfl
  · exact .inl (by rw [token_of_not_special hc, token_of_not_special hc])

/-! ## Refused patterns -/

/-- **An objection of the scan stays** however the text goes on. -/
theorem scan_append {s : Shape} {r : Reason} (h : scan s (tokens cs) = some r) (more : List Char) :
    scan s (tokens (cs ++ more)) = some r := by
  induction hn : cs.length using Nat.strong_induction_on generalizing cs s with
  | h n ih =>
    cases cs with
    | nil => cases h
    | cons c cs =>
      rcases token_append c cs more with heq | hidle
      · have hlen := token_length_le c cs
        rw [List.cons_append, tokens_cons, heq, List.drop_append_of_le_length hlen]
        rw [tokens_cons] at h
        rw [scan] at h ⊢
        split at h
        · exact h
        · refine ih _ ?_ h rfl
          rw [← hn, List.length_drop, List.length_cons]
          omega
      · rw [scan_idle hidle] at h
        cases h

theorem rejection?_of_length_le (h : cs.length ≤ 200) :
    rejection? cs = scan ⟨[], .nothing⟩ (tokens cs) := if_neg (Nat.not_lt.mpr h)

theorem rejection?_of_lt_length (h : 200 < cs.length) : rejection? cs = some .tooLong := if_pos h

/-- **A pattern that is refused stays refused** for the same reason, up to the greatest length that a
pattern may have; every beginning of a pattern that is not refused is not refused. -/
theorem rejection?_append (cs more : List Char) :
    ((cs ++ more).length ≤ 200 → ∀ r, rejection? cs = some r → rejection? (cs ++ more) = some r) ∧
      (isSafe (cs ++ more) = true → isSafe cs = true) := by
  have hstays : (cs ++ more).length ≤ 200 → ∀ r, rejection? cs = some r →
      rejection? (cs ++ more) = some r := by
    intro hlen r h
    have hcs : cs.length ≤ 200 := by
      rw [List.length_append] at hlen
      omega
    rw [rejection?_of_length_le hcs] at h
    rw [rejection?_of_length_le hlen]
    exact scan_append h more
  refine ⟨hstays, fun hsafe => ?_⟩
  rw [isSafe, Option.isNone_iff_eq_none] at hsafe ⊢
  have hlen : (cs ++ more).length ≤ 200 := by
    refine Decidable.byContradiction fun hlong => ?_
    rw [rejection?_of_lt_length (Nat.not_le.mp hlong)] at hsafe
    cases hsafe
  rw [Option.eq_none_iff_forall_ne_some]
  intro r h
  rw [hstays hlen r h] at hsafe
  cases hsafe

/-- A class and the flags of a group that are closed by what follows. -/
theorem rejection?_append_openClass :
    (("(a+)*[b".toList ++ "(+]++".toList).length ≤ 200 ∧
        rejection? "(a+)*[b".toList = some .nested ∧
        rejection? ("(a+)*[b".toList ++ "(+]++".toList) = some .nested) ∧
      isSafe ("(a+)[b](?i".toList ++ ":c)".toList) = true ∧ isSafe "(a+)[b](?i".toList = true := by
  have hlen : ("(a+)*[b".toList ++ "(+]++".toList).length ≤ 200 := by decide
  have hnested : rejection? "(a+)*[b".toList = some .nested := by decide
  have hsafe : isSafe ("(a+)[b](?i".toList ++ ":c)".toList) = true := by decide
  exact ⟨⟨hlen, hnested, (rejection?_append _ _).1 hlen _ hnested⟩, hsafe,
    (rejection?_append _ _).2 hsafe⟩

end PostingRules.Guard
