import PostingRules.Proofs.Pattern.Continuation

/-!
# The screening as loops over indices

The tokens of a pattern can be read by index too: loops that ask for the character at an index, move the
index on, and stop behind the last character. Such a loop can ask for a character that is not there, and
it can come to no end; here it does neither.

* `charAt`, `passAt`, `passOneAt`, `classAt`, `classEnd`, `countEnd`, `flagsAt`, `tokenAt`, `scanAt`: the
  loops, each with the number of rounds that it may take;
* `classEnd_eq`, `countEnd_eq`, `flagsAt_eq`, `tokenAt_eq`, `scanAt_eq`: they find what is read off the
  characters, and take one round for each character at most;
* `Nests`, `ClosesClass`, `ClassEnds`, `IsCountAt`: where a class and a repetition count end;
* `classEnds`, `countEnd_eq_some_iff`: they end where the loops stop;
* **`scanAt_advances`**: what each loop finds, that the index grows in every round of the scan, and that
  the scan comes to its end.
-/

namespace PostingRules.Guard

open PostingRules.Text PostingRules.PatternReader

/-! ## Loops -/

/-- Why a loop over indices has no result. -/
inductive Halt
  /-- There is no character at the index. -/
  | outside
  /-- The rounds are used up. -/
  | unfinished
  deriving DecidableEq, Repr

/-- The character at an index, which has to be there. -/
def charAt (cs : List Char) (i : Nat) : Except Halt Char :=
  match cs[i]? with
  | some c => .ok c
  | none => .error .outside

/-- The index behind the characters from `j` on that pass a test. -/
def passAt (cs : List Char) (p : Char → Bool) : Nat → Nat → Except Halt Nat
  | 0, j => if cs[j]?.any p then .error .unfinished else .ok j
  | rounds + 1, j => if cs[j]?.any p then passAt cs p rounds (j + 1) else .ok j

/-- The index behind `c` if it stands at `j`. -/
def passOneAt (cs : List Char) (c : Char) (j : Nat) : Nat := if cs[j]? = some c then j + 1 else j

/-- The index behind a class from `j` on, with `depth` brackets open. -/
def classAt (cs : List Char) : Nat → Nat → Nat → Except Halt Nat
  | 0, j, _ => if j < cs.length then .error .unfinished else .ok cs.length
  | rounds + 1, j, depth =>
    if j < cs.length then do
      match ← charAt cs j with
      | '\\' => classAt cs rounds (j + 2) depth
      | '[' => classAt cs rounds (j + 1) (depth + 1)
      | ']' => if depth = 1 then .ok (j + 1) else classAt cs rounds (j + 1) (depth - 1)
      | _ => classAt cs rounds (j + 1) depth
    else .ok cs.length

/-- The index behind the class whose bracket stands at `i`. A circumflex and then a closing bracket at
its start are literal. -/
def classEnd (cs : List Char) (i : Nat) : Except Halt Nat :=
  classAt cs cs.length (passOneAt cs ']' (passOneAt cs '^' (i + 1))) 1

/-- The index of the closing brace of the repetition count whose opening brace stands at `i`. -/
def countEnd (cs : List Char) (i : Nat) : Except Halt (Option Nat) := do
  let j ← passAt cs isDigit cs.length (i + 1)
  let comma := decide (cs[j]? = some ',')
  let k ← if comma then passAt cs isDigit cs.length (j + 1) else .ok j
  let valid := decide (i + 1 < j) || comma && decide (j + 1 < k)
  return if valid && cs[k]? = some '}' then some k else none

/-- Does the parenthesis at `i` open a group that does not capture? -/
def flagsAt (cs : List Char) (i : Nat) : Except Halt Bool :=
  if cs[i + 1]? = some '?' then do
    let j ← passAt cs isFlagChar cs.length (i + 2)
    return cs[j]? = some ':'
  else .ok false

/-- The token at an index, and the index of the next one. -/
def tokenAt (cs : List Char) (i : Nat) : Except Halt (Token × Nat) := do
  match ← charAt cs i with
  | '\\' => return (.literal, i + 2)
  | '[' => return (.literal, ← classEnd cs i)
  | '(' => return (.opening (← flagsAt cs i), if cs[i + 1]? = some '?' then i + 2 else i + 1)
  | ')' => return (.closing, i + 1)
  | '+' | '*' => return (.many, i + 1)
  | '{' =>
    match ← countEnd cs i with
    | some j => return (.counted, j + 1)
    | none => return (.literal, i + 1)
  | '?' => return (.optional, i + 1)
  | _ => return (.literal, i + 1)

/-- The first reason that the scan meets from an index on. -/
def scanAt (cs : List Char) : Nat → Nat → Shape → Except Halt (Option Reason)
  | 0, i, _ => if i < cs.length then .error .unfinished else .ok none
  | rounds + 1, i, s =>
    if i < cs.length then do
      let (t, next) ← tokenAt cs i
      match s.step t with
      | .error r => return some r
      | .ok s' => scanAt cs rounds next s'
    else .ok none

variable {cs : List Char} {i j rounds : Nat}

/-! ## Characters behind an index -/

theorem getElem?_of_drop {c : Char} {rest : List Char} (h : cs.drop i = c :: rest) :
    cs[i]? = some c := by
  rw [← List.head?_drop, h, List.head?_cons]

theorem drop_of_getElem? {c : Char} (h : cs[i]? = some c) : cs.drop i = c :: cs.drop (i + 1) := by
  obtain ⟨hi, rfl⟩ := List.getElem?_eq_some_iff.mp h
  exact List.drop_eq_getElem_cons hi

theorem exists_drop_eq_cons (h : i < cs.length) : ∃ c, cs.drop i = c :: cs.drop (i + 1) :=
  ⟨cs[i], List.drop_eq_getElem_cons h⟩

theorem charAt_bind {α : Type} {c : Char} {rest : List Char} (h : cs.drop i = c :: rest)
    (f : Char → Except Halt α) : (charAt cs i >>= f) = f c := by
  rw [charAt, getElem?_of_drop h]
  rfl

theorem dropWhile_drop (p : Char → Bool) (cs : List Char) (j : Nat) :
    (cs.drop j).dropWhile p = cs.drop (j + ((cs.drop j).takeWhile p).length) := by
  have hsplit := List.takeWhile_append_dropWhile (p := p) (l := cs.drop j)
  calc (cs.drop j).dropWhile p
      = ((cs.drop j).takeWhile p ++ (cs.drop j).dropWhile p).drop
          ((cs.drop j).takeWhile p).length := List.drop_left.symm
    _ = (cs.drop j).drop ((cs.drop j).takeWhile p).length := by rw [hsplit]
    _ = cs.drop (j + ((cs.drop j).takeWhile p).length) := List.drop_drop

theorem passAt_eq (p : Char → Bool) (h : cs.length - j ≤ rounds) :
    passAt cs p rounds j = .ok (j + ((cs.drop j).takeWhile p).length) := by
  induction rounds generalizing j with
  | zero =>
    have hnone : cs[j]? = none := List.getElem?_eq_none (by omega)
    have hdrop : cs.drop j = [] := List.drop_eq_nil_of_le (by omega)
    simp [passAt, hnone, hdrop]
  | succ rounds ih =>
    rw [passAt]
    rcases Nat.lt_or_ge j cs.length with hj | hj
    · obtain ⟨c, hc⟩ := exists_drop_eq_cons hj
      rw [getElem?_of_drop hc, hc, Option.any_some]
      split
      · next hp =>
        rw [ih (by omega), List.takeWhile_cons_of_pos hp, List.length_cons]
        congr 1
        omega
      · next hp => rw [List.takeWhile_cons_of_neg hp, List.length_nil, Nat.add_zero]
    · have hnone : cs[j]? = none := List.getElem?_eq_none hj
      have hdrop : cs.drop j = [] := List.drop_eq_nil_of_le hj
      simp [hnone, hdrop]

/-! ## Classes -/

theorem classTail_escape (depth : Nat) (cs : List Char) :
    classTail depth ('\\' :: cs) = 1 + min 1 cs.length + classTail depth (cs.drop 1) := by
  cases cs with
  | nil => rfl
  | cons c cs =>
    rw [classTail, List.drop_one, List.tail_cons, List.length_cons]
    omega

theorem classAt_eq (depth : Nat) (h : cs.length - j ≤ rounds) :
    classAt cs rounds j (depth + 1) = .ok (min cs.length (j + classTail depth (cs.drop j))) := by
  induction rounds generalizing j depth with
  | zero =>
    rw [classAt, if_neg (by omega), Nat.min_eq_left (by omega)]
  | succ rounds ih =>
    rw [classAt]
    split
    · next hj =>
      obtain ⟨c, hc⟩ := exists_drop_eq_cons hj
      rw [charAt_bind hc, hc]
      split
      · -- behind a backslash at the end the index is behind the text, and the end is its length
        rw [ih depth (by omega), classTail_escape, List.drop_drop, List.length_drop,
          show j + 1 + 1 = j + 2 from rfl]
        congr 1
        omega
      · rw [ih (depth + 1) (by omega), classTail]
        congr 2
        omega
      · rw [classTail]
        cases depth with
        | zero =>
          rw [if_pos rfl, if_pos rfl, Nat.min_eq_right (by omega)]
        | succ depth =>
          rw [if_neg (by omega), if_neg (by omega), Nat.add_sub_cancel, Nat.add_sub_cancel,
            ih depth (by omega)]
          congr 2
          omega
      · next hslash hopen hclose =>
        rw [ih depth (by omega), classTail_cons hslash hopen hclose]
        congr 2
        omega
    · next hj => rw [Nat.min_eq_left (by omega)]

theorem passOver_drop (c : Char) (cs : List Char) (j : Nat) :
    j + (passOver c (cs.drop j)).1 = passOneAt cs c j ∧
      (passOver c (cs.drop j)).2 = cs.drop (passOneAt cs c j) := by
  unfold passOneAt
  rcases Nat.lt_or_ge j cs.length with hj | hj
  · obtain ⟨d, hd⟩ := exists_drop_eq_cons hj
    rw [getElem?_of_drop hd, hd, passOver]
    simp only [Option.some.injEq]
    split
    · exact ⟨rfl, rfl⟩
    · exact ⟨rfl, hd.symm⟩
  · rw [List.getElem?_eq_none hj, List.drop_eq_nil_of_le hj, if_neg (Option.some_ne_none c).symm]
    exact ⟨rfl, (List.drop_eq_nil_of_le hj).symm⟩

/-- **The end of a class** is found where the class is read off the characters. -/
theorem classEnd_eq (h : i < cs.length) :
    classEnd cs i = .ok (i + 1 + classLength (cs.drop (i + 1))) := by
  obtain ⟨hcaret, hcaret'⟩ := passOver_drop '^' cs (i + 1)
  obtain ⟨hbracket, hbracket'⟩ := passOver_drop ']' cs (passOneAt cs '^' (i + 1))
  have hlength := classLength_le (cs.drop (i + 1))
  rw [List.length_drop] at hlength
  rw [classEnd, classAt_eq 0 (Nat.sub_le _ _)]
  unfold classLength at hlength ⊢
  dsimp only at hlength ⊢
  rw [hcaret', hbracket'] at hlength ⊢
  congr 1
  omega

/-- **The end of a repetition count** is found where the count is read off the characters. -/
theorem countEnd_eq (cs : List Char) (i : Nat) :
    countEnd cs i = .ok ((countLength? (cs.drop (i + 1))).map (i + ·)) := by
  have hdigits : ∀ j, passAt cs isDigit cs.length j =
      .ok (j + ((cs.drop j).takeWhile isDigit).length) := fun j => passAt_eq isDigit (by omega)
  unfold countEnd countLength?
  simp only [hdigits, bind, Except.bind, pure, Except.pure]
  rw [dropWhile_drop]
  generalize (cs.drop (i + 1)).takeWhile isDigit = least
  by_cases hcomma : cs[i + 1 + least.length]? = some ','
  · rw [drop_of_getElem? hcomma]
    simp only [hcomma, decide_true, if_true, Bool.true_and, dropWhile_drop]
    generalize (cs.drop (i + 1 + least.length + 1)).takeWhile isDigit = most
    by_cases hclose : cs[i + 1 + least.length + 1 + most.length]? = some '}'
    · rw [drop_of_getElem? hclose]
      simp only [hclose]
      cases least <;> cases most <;> simp <;> omega
    · simp only [hclose, decide_false, Bool.and_false, Bool.false_eq_true, if_false]
      split
      · next hrest => exact absurd (getElem?_of_drop hrest) hclose
      · rfl
  · simp only [hcomma, decide_false, Bool.false_and, Bool.false_eq_true, if_false]
    by_cases hclose : cs[i + 1 + least.length]? = some '}'
    · rw [drop_of_getElem? hclose]
      simp only [hclose]
      cases least with
      | nil => simp
      | cons d least =>
        simp
        omega
    · simp only [hclose, decide_false, Bool.and_false, Bool.false_eq_true, if_false]
      split
      · next hrest => exact absurd (getElem?_of_drop hrest) hclose
      · next hrest => exact absurd (getElem?_of_drop hrest) hcomma
      · rfl

theorem flagsAt_eq (cs : List Char) (i : Nat) :
    flagsAt cs i = .ok (isNonCapturing (cs.drop (i + 1))) := by
  unfold flagsAt
  split
  · next hq =>
    rw [passAt_eq isFlagChar (by omega), drop_of_getElem? hq, isNonCapturing, dropWhile_drop,
      List.head?_drop]
    rfl
  · next hq =>
    rw [isNonCapturing_of_head]
    rwa [List.head?_drop]

/-! ## Tokens -/

/-- **The token at an index** is the one that is read off the characters, and the next one stands
behind. -/
theorem tokenAt_eq {c : Char} {rest : List Char} (h : cs.drop i = c :: rest) :
    ∃ next, tokenAt cs i = .ok ((token c rest).1, next) ∧ i < next ∧
      cs.drop next = rest.drop (token c rest).2 := by
  have hrest : cs.drop (i + 1) = rest := by rw [← List.tail_drop, h, List.tail_cons]
  have hdrop : ∀ n, cs.drop (i + 1 + n) = rest.drop n := fun n => by rw [← List.drop_drop, hrest]
  have hi : i < cs.length := (List.getElem?_eq_some_iff.mp (getElem?_of_drop h)).1
  have hquestion : cs[i + 1]? = rest.head? := by rw [← hrest, List.head?_drop]
  rw [tokenAt, charAt_bind h]
  split
  · refine ⟨i + 2, rfl, by omega, ?_⟩
    cases rest with
    | nil => exact hdrop 1
    | cons d rest => simpa [token] using hdrop 1
  · rw [classEnd_eq hi, hrest]
    exact ⟨_, rfl, by omega, hdrop _⟩
  · have htoken : token '(' rest =
      (.opening (isNonCapturing rest), if rest.head? = some '?' then 1 else 0) := rfl
    rw [flagsAt_eq, hrest, hquestion, htoken]
    by_cases hq : rest.head? = some '?'
    · rw [if_pos hq, if_pos hq]
      exact ⟨i + 2, rfl, by omega, hdrop 1⟩
    · rw [if_neg hq, if_neg hq]
      exact ⟨i + 1, rfl, Nat.lt_succ_self i, hdrop 0⟩
  · exact ⟨i + 1, rfl, Nat.lt_succ_self i, hrest⟩
  · exact ⟨i + 1, rfl, Nat.lt_succ_self i, hrest⟩
  · exact ⟨i + 1, rfl, Nat.lt_succ_self i, hrest⟩
  · rw [countEnd_eq, hrest, token]
    cases countLength? rest with
    | none => exact ⟨i + 1, rfl, Nat.lt_succ_self i, hrest⟩
    | some n =>
      refine ⟨i + n + 1, rfl, by omega, ?_⟩
      rw [Nat.add_right_comm]
      exact hdrop n
  · exact ⟨i + 1, rfl, Nat.lt_succ_self i, hrest⟩
  · next hslash hopen hparen hclose hplus hstar hbrace hq =>
    have hspecial : c ∉ specials := by
      simp only [specials, List.mem_cons, List.not_mem_nil, or_false]
      tauto
    rw [token_of_not_special hspecial]
    exact ⟨i + 1, rfl, Nat.lt_succ_self i, hrest⟩

/-- **The scan** comes to its end in one round for each character at most. -/
theorem scanAt_eq (s : Shape) (h : cs.length - i ≤ rounds) :
    scanAt cs rounds i s = .ok (scan s (tokens (cs.drop i))) := by
  induction rounds generalizing i s with
  | zero =>
    rw [scanAt, if_neg (by omega), List.drop_eq_nil_of_le (by omega)]
    rfl
  | succ rounds ih =>
    rw [scanAt]
    split
    · next hi =>
      obtain ⟨c, hc⟩ := exists_drop_eq_cons hi
      obtain ⟨next, htoken, hnext, hdrop⟩ := tokenAt_eq hc
      rw [htoken, hc, tokens_cons, scan, ← hdrop]
      simp only [bind, Except.bind]
      cases s.step (token c (cs.drop (i + 1))).1 with
      | error r => rfl
      | ok s' => exact ih s' (by omega)
    · next hi =>
      rw [List.drop_eq_nil_of_le (by omega)]
      rfl

/-! ## The closing bracket of a class -/

/-- **Text inside a class** that leads from `d` open brackets to the one of the class, and never to none.
An escaped character counts for nothing. -/
inductive Nests : Nat → List Char → Prop
  | nil : Nests 1 []
  | escape {d c w} : Nests d w → Nests d ('\\' :: c :: w)
  | opening {d w} : Nests (d + 1) w → Nests d ('[' :: w)
  | closing {d w} : Nests (d + 1) w → Nests (d + 2) (']' :: w)
  | other {d c w} : c ≠ '\\' → c ≠ '[' → c ≠ ']' → Nests d w → Nests d (c :: w)

theorem classTail_of_nests {depth : Nat} {w : List Char} (h : Nests (depth + 1) w)
    (rest : List Char) : classTail depth (w ++ ']' :: rest) = w.length + 1 := by
  generalize hd : depth + 1 = d at h
  induction h generalizing depth with
  | nil =>
    obtain rfl : depth = 0 := by omega
    rfl
  | escape _ ih => rw [List.cons_append, List.cons_append, classTail, ih hd]; rfl
  | opening _ ih => rw [List.cons_append, classTail, ih (by omega)]; rfl
  | @closing d w _ ih =>
    obtain rfl : depth = d + 1 := by omega
    rw [List.cons_append, classTail, if_neg (Nat.succ_ne_zero d), Nat.add_sub_cancel, ih rfl]
    rfl
  | other h₁ h₂ h₃ _ ih => rw [List.cons_append, classTail_cons h₁ h₂ h₃, ih hd]; rfl

/-- A class that no bracket closes takes all that is left. -/
theorem classTail_eq_length {depth : Nat} {cs : List Char}
    (h : ∀ w rest, cs = w ++ ']' :: rest → ¬ Nests (depth + 1) w) :
    classTail depth cs = cs.length := by
  fun_induction classTail depth cs with
  | case1 => rfl
  | case2 => rfl
  | case3 depth c cs ih =>
    rw [ih fun w rest hw hn => h ('\\' :: c :: w) rest (by rw [hw]; rfl) (.escape hn)]
    rfl
  | case4 depth cs ih =>
    rw [ih fun w rest hw hn => h ('[' :: w) rest (by rw [hw]; rfl) (.opening hn)]
    rfl
  | case5 cs => exact absurd .nil (h [] cs rfl)
  | case6 depth cs hdepth ih =>
    obtain ⟨d, rfl⟩ := Nat.exists_eq_succ_of_ne_zero hdepth
    rw [ih fun w rest hw hn => h (']' :: w) rest (by rw [hw]; rfl) (.closing hn)]
    rfl
  | case7 depth c cs hlast hescape hopen hclose ih =>
    have hslash := ne_backslash hlast hescape
    rw [ih fun w rest hw hn => h (c :: w) rest (by rw [hw]; rfl) (.other hslash hopen hclose hn)]
    rfl

/-- What is literal at the start of a class: a circumflex, and then a closing bracket. -/
def classLead : List Char → List Char
  | '^' :: ']' :: _ => ['^', ']']
  | '^' :: _ => ['^']
  | ']' :: _ => [']']
  | _ => []

theorem classLength_eq (cs : List Char) : classLength cs =
    (classLead cs).length + classTail 0 (cs.drop (classLead cs).length) := by
  have hhead : ∀ {c : Char} {cs : List Char}, (∀ tail, cs = c :: tail → False) →
      passOver c cs = (0, cs) := fun hc => passOver_of_ne fun hhead =>
    (List.head?_eq_some_iff.mp hhead).elim hc
  unfold classLead
  split
  · simp [classLength, passOver]
  · next tail hbracket =>
    have hcaret : passOver '^' ('^' :: tail) = (1, tail) := rfl
    simp [classLength, hcaret, hhead hbracket]
  · simp [classLength, passOver]
  · next hnone hcaret hbracket => simp [classLength, hhead hcaret, hhead hbracket]

theorem classLead_append (cs : List Char) :
    classLead cs ++ cs.drop (classLead cs).length = cs := by
  unfold classLead
  split <;> rfl

/-- **The bracket at `j` closes the class at `i`**: between them stand what is literal at the start of
the class and a text that leads to no other closing bracket of the class. -/
def ClosesClass (cs : List Char) (i j : Nat) : Prop :=
  ∃ w rest, cs.drop (i + 1) = classLead (cs.drop (i + 1)) ++ (w ++ ']' :: rest) ∧ Nests 1 w ∧
    j = i + 1 + (classLead (cs.drop (i + 1))).length + w.length

/-- **The class at `i` ends at `e`**: behind the bracket that closes it, and behind the last character
where no bracket does. -/
def ClassEnds (cs : List Char) (i e : Nat) : Prop :=
  (∀ j, ClosesClass cs i j → e = j + 1) ∧ ((∀ j, ¬ ClosesClass cs i j) → e = cs.length)

theorem classEnds (h : i < cs.length) :
    ClassEnds cs i (i + 1 + classLength (cs.drop (i + 1))) := by
  have hlead := classLead_append (cs.drop (i + 1))
  rw [classLength_eq]
  constructor
  · rintro _ ⟨w, rest, hdrop, hw, rfl⟩
    have hinside : (cs.drop (i + 1)).drop (classLead (cs.drop (i + 1))).length = w ++ ']' :: rest :=
      List.append_cancel_left (hlead.trans hdrop)
    rw [hinside, classTail_of_nests hw]
    omega
  · intro hnone
    have hlength := congrArg List.length hlead
    simp only [List.length_append, List.length_drop] at hlength
    rw [classTail_eq_length fun w rest hinside hw => ?_]
    · rw [List.length_drop, List.length_drop]
      omega
    · exact hnone _ ⟨w, rest, by rw [← hinside, hlead], hw, rfl⟩

/-- The braces of a repetition count stand at `i` and `j`. -/
def IsCountAt (cs : List Char) (i j : Nat) : Prop :=
  ∃ w rest, cs.drop i = '\x7b' :: (w ++ '\x7d' :: rest) ∧ IsCount w ∧ j = i + w.length + 1

theorem countEnd_eq_some_iff (h : cs[i]? = some '\x7b') :
    (countLength? (cs.drop (i + 1))).map (i + ·) = some j ↔ IsCountAt cs i j := by
  rw [IsCountAt, drop_of_getElem? h, Option.map_eq_some_iff]
  constructor
  · rintro ⟨n, hn, rfl⟩
    obtain ⟨w, rest, hdrop, hw, rfl⟩ := isCount_of_countLength? hn
    exact ⟨w, rest, by rw [hdrop], hw, rfl⟩
  · rintro ⟨w, rest, hdrop, hw, rfl⟩
    rw [(List.cons.inj hdrop).2, countLength?_of_isCount hw]
    exact ⟨w.length + 1, rfl, rfl⟩

/-- **The scan advances and stays inside**, on every pattern. -/
theorem scanAt_advances (cs : List Char) :
    (∀ i, cs[i]? = some '[' → ∃ e, classEnd cs i = .ok e ∧ i < e ∧ e ≤ cs.length ∧
      ClassEnds cs i e) ∧
    (∀ i, cs[i]? = some '\x7b' → ∃ o, countEnd cs i = .ok o ∧
      ∀ j, o = some j ↔ IsCountAt cs i j) ∧
    (∀ i < cs.length, ∃ t next, tokenAt cs i = .ok (t, next) ∧ i < next) ∧
    ∀ s, scanAt cs cs.length 0 s = .ok (scan s (tokens cs)) := by
  refine ⟨fun i hi => ?_, fun i hi => ?_, fun i hi => ?_, fun s => scanAt_eq s (Nat.sub_le _ _)⟩
  · have hlt : i < cs.length := (List.getElem?_eq_some_iff.mp hi).1
    have hle := classLength_le (cs.drop (i + 1))
    rw [List.length_drop] at hle
    exact ⟨_, classEnd_eq hlt, by omega, by omega, classEnds hlt⟩
  · exact ⟨_, countEnd_eq cs i, fun j => countEnd_eq_some_iff hi⟩
  · obtain ⟨c, hc⟩ := exists_drop_eq_cons hi
    obtain ⟨next, htoken, hnext, -⟩ := tokenAt_eq hc
    exact ⟨_, next, htoken, hnext⟩

/-- A repetition count, a class that no bracket closes, and a backslash with nothing behind it. -/
def brokenClass : List Char := "a\x7b2,\x7d[^]b[c]\\".toList

theorem scanAt_advances_brokenClass :
    (classEnd brokenClass 5 = .ok 13 ∧ ClassEnds brokenClass 5 13) ∧
    (countEnd brokenClass 1 = .ok (some 4) ∧ IsCountAt brokenClass 1 4) ∧
    (∃ t next, tokenAt brokenClass 5 = .ok (t, next) ∧ 5 < next) ∧
    scanAt brokenClass 13 0 ⟨[], .nothing⟩ = .ok none := by
  obtain ⟨hclass, hcount, htoken, hscan⟩ := scanAt_advances brokenClass
  obtain ⟨e, he, -, -, hends⟩ := hclass 5 (by decide)
  obtain ⟨o, ho, hbraces⟩ := hcount 1 (by decide)
  have he' : classEnd brokenClass 5 = .ok 13 := by decide
  have ho' : countEnd brokenClass 1 = .ok (some 4) := by decide
  cases he.symm.trans he'
  cases ho.symm.trans ho'
  exact ⟨⟨he', hends⟩, ⟨ho', (hbraces 4).mp rfl⟩, htoken 5 (by decide), hscan _⟩

end PostingRules.Guard
