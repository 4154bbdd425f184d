import PostingRules.Pattern.Guard
import Mathlib.Tactic.Common
import Mathlib.Data.List.TakeWhile

/-!
# The tokens of a pattern

* `IsCount`: what stands between the braces of a repetition count;
* `BeginsFlags`: what follows the parenthesis of a group that does not capture;
* `Cuts`: the tokens at the front of a pattern, as a grammar;
* `countLength?_of_isCount`, `countLength?_eq_none_iff`, `isNonCapturing_iff`: the two readers that
  look ahead;
* **`cuts_iff`**: a pattern has one row of tokens.
-/

namespace PostingRules.Guard

open PostingRules.Text

/-! ## Grammar -/

/-- Nothing but digits. -/
def AllDigits (cs : List Char) : Prop := ∀ c ∈ cs, isDigit c = true

/-- What stands between the braces of a repetition count: `n`, `n,`, `n,m` or `,m`. -/
def IsCount (w : List Char) : Prop :=
  (w ≠ [] ∧ AllDigits w) ∨
    ∃ least most, w = least ++ ',' :: most ∧ AllDigits least ∧ AllDigits most ∧
      (least ≠ [] ∨ most ≠ [])

/-- The characters of a repetition count. -/
theorem IsCount.all {w : List Char} (h : IsCount w) : ∀ c ∈ w, (isDigit c || c = ',') = true := by
  have hdigits : ∀ {w}, AllDigits w → ∀ c ∈ w, (isDigit c || c = ',') = true := fun hw c hc => by
    rw [hw c hc, Bool.true_or]
  rcases h with ⟨-, hw⟩ | ⟨least, most, rfl, hl, hm, -⟩
  · exact hdigits hw
  · exact List.forall_mem_append.mpr
      ⟨hdigits hl, List.forall_mem_cons.mpr ⟨by decide, hdigits hm⟩⟩

/-- The text begins with a repetition count and its closing brace. -/
def BeginsCount (cs : List Char) : Prop := ∃ w rest, cs = w ++ '}' :: rest ∧ IsCount w

/-- The text begins with letters or dashes and a colon, as behind `(?` where a group does not
capture. -/
def BeginsFlags (cs : List Char) : Prop :=
  ∃ w rest, cs = w ++ ':' :: rest ∧ ∀ c ∈ w, isFlagChar c = true

/-- The characters that do not stand for themselves, or not always. -/
def specials : List Char := ['\\', '[', '(', ')', '+', '*', '{', '?']

theorem not_mem_specials {p : Char → Bool} (hp : specials.any p = false) {c : Char}
    (h : p c = true) : c ∉ specials := fun hc => List.any_eq_false.mp hp c hc h

/-- **The tokens at the front of a pattern** and what is left behind them. -/
inductive Cuts : List Char → List Token → List Char → Prop
  | nil (cs : List Char) : Cuts cs [] cs
  /-- A backslash with the character behind it. -/
  | escape {c cs ts rest} : Cuts cs ts rest → Cuts ('\\' :: c :: cs) (.literal :: ts) rest
  | lastEscape : Cuts ['\\'] [.literal] []
  /-- A character class. -/
  | bracket {cs ts rest} :
    Cuts (cs.drop (classLength cs)) ts rest → Cuts ('[' :: cs) (.literal :: ts) rest
  | opening {cs ts rest} :
    cs.head? ≠ some '?' → Cuts cs ts rest → Cuts ('(' :: cs) (.opening false :: ts) rest
  /-- A group that captures, by name, or a change of flags. -/
  | asking {cs ts rest} : ¬ BeginsFlags cs →
    Cuts cs ts rest → Cuts ('(' :: '?' :: cs) (.opening false :: ts) rest
  | nonCapturing {cs ts rest} : BeginsFlags cs →
    Cuts cs ts rest → Cuts ('(' :: '?' :: cs) (.opening true :: ts) rest
  | closing {cs ts rest} : Cuts cs ts rest → Cuts (')' :: cs) (.closing :: ts) rest
  | plus {cs ts rest} : Cuts cs ts rest → Cuts ('+' :: cs) (.many :: ts) rest
  | star {cs ts rest} : Cuts cs ts rest → Cuts ('*' :: cs) (.many :: ts) rest
  | counted {w cs ts rest} :
    IsCount w → Cuts cs ts rest → Cuts ('{' :: (w ++ '}' :: cs)) (.counted :: ts) rest
  /-- A brace that opens no repetition count. -/
  | brace {cs ts rest} :
    ¬ BeginsCount cs → Cuts cs ts rest → Cuts ('{' :: cs) (.literal :: ts) rest
  | optional {cs ts rest} : Cuts cs ts rest → Cuts ('?' :: cs) (.optional :: ts) rest
  | literal {c cs ts rest} : c ∉ specials → Cuts cs ts rest → Cuts (c :: cs) (.literal :: ts) rest

theorem Cuts.append {cs mid rest : List Char} {ts us : List Token} (h : Cuts cs ts mid)
    (h' : Cuts mid us rest) : Cuts cs (ts ++ us) rest := by
  induction h with
  | nil => exact h'
  | escape _ ih => exact .escape (ih h')
  | lastEscape =>
    cases h'
    exact .lastEscape
  | bracket _ ih => exact .bracket (ih h')
  | opening hq _ ih => exact .opening hq (ih h')
  | asking hf _ ih => exact .asking hf (ih h')
  | nonCapturing hf _ ih => exact .nonCapturing hf (ih h')
  | closing _ ih => exact .closing (ih h')
  | plus _ ih => exact .plus (ih h')
  | star _ ih => exact .star (ih h')
  | counted hw _ ih => exact .counted hw (ih h')
  | brace hb _ ih => exact .brace hb (ih h')
  | optional _ ih => exact .optional (ih h')
  | literal hc _ ih => exact .literal hc (ih h')

theorem cuts_literals {w : List Char} (h : ∀ c ∈ w, c ∉ specials) (rest : List Char) :
    Cuts (w ++ rest) (List.replicate w.length .literal) rest := by
  induction w with
  | nil => exact .nil rest
  | cons c w ih =>
    rw [List.forall_mem_cons] at h
    exact .literal h.1 (ih h.2)

/-! ## Looking ahead -/

theorem takeWhile_append_cons {α : Type} {p : α → Bool} {w rest : List α} {a : α}
    (hw : ∀ x ∈ w, p x = true) (ha : p a = false) : (w ++ a :: rest).takeWhile p = w := by
  rw [List.takeWhile_append_of_pos hw, List.takeWhile_cons_of_neg (by simp [ha]), List.append_nil]

theorem dropWhile_append_cons {α : Type} {p : α → Bool} {w rest : List α} {a : α}
    (hw : ∀ x ∈ w, p x = true) (ha : p a = false) : (w ++ a :: rest).dropWhile p = a :: rest := by
  rw [List.dropWhile_append_of_pos hw, List.dropWhile_cons_of_neg (by simp [ha])]

theorem drop_append_cons {α : Type} (w : List α) (a : α) (rest : List α) :
    (w ++ a :: rest).drop (w.length + 1) = rest := by
  rw [List.append_cons, List.drop_left' (by simp)]

theorem allDigits_takeWhile (cs : List Char) : AllDigits (cs.takeWhile isDigit) := fun _ hc =>
  List.mem_takeWhile_imp hc

theorem countLength?_of_isCount {w : List Char} (hw : IsCount w) (rest : List Char) :
    countLength? (w ++ '}' :: rest) = some (w.length + 1) := by
  have hbrace : isDigit '}' = false := by decide
  have hcomma : isDigit ',' = false := by decide
  unfold countLength?
  rcases hw with ⟨hne, hd⟩ | ⟨least, most, rfl, hl, hm, hne⟩
  · rw [takeWhile_append_cons hd hbrace, dropWhile_append_cons hd hbrace]
    simp [hne]
  · rw [List.append_assoc, List.cons_append, takeWhile_append_cons hl hcomma,
      dropWhile_append_cons hl hcomma]
    simp only [takeWhile_append_cons hm hbrace, dropWhile_append_cons hm hbrace]
    have : (least.isEmpty && most.isEmpty) = false := by
      rcases hne with h | h <;> simp [h]
    simp only [this, List.length_append, List.length_cons]
    simp only [Bool.false_eq_true, if_false, Option.some.injEq]
    omega

theorem isCount_of_countLength? {cs : List Char} {n : Nat} (h : countLength? cs = some n) :
    ∃ w rest, cs = w ++ '}' :: rest ∧ IsCount w ∧ n = w.length + 1 := by
  have hsplit := List.takeWhile_append_dropWhile (p := isDigit) (l := cs)
  unfold countLength? at h
  simp only at h
  split at h
  · next rest hrest =>
    split at h
    · cases h
    · next hne =>
      refine ⟨cs.takeWhile isDigit, rest, by rw [← hrest, hsplit],
        .inl ⟨by simpa using hne, allDigits_takeWhile cs⟩, by simpa using h.symm⟩
  · next rest hrest =>
    split at h
    · next rest' hrest' =>
      split at h
      · cases h
      · next hne =>
        have hsplit' := List.takeWhile_append_dropWhile (p := isDigit) (l := rest)
        refine ⟨cs.takeWhile isDigit ++ ',' :: rest.takeWhile isDigit, rest', ?_,
          .inr ⟨_, _, rfl, allDigits_takeWhile cs, allDigits_takeWhile rest, ?_⟩, ?_⟩
        · rw [List.append_assoc, List.cons_append, ← hrest', hsplit', ← hrest, hsplit]
        · simpa only [Bool.and_eq_true, List.isEmpty_iff, not_and_or] using hne
        · simp only [Option.some.injEq] at h
          simp only [List.length_append, List.length_cons]
          omega
    · cases h
  · cases h

theorem countLength?_eq_none_iff {cs : List Char} : countLength? cs = none ↔ ¬ BeginsCount cs := by
  rw [Option.eq_none_iff_forall_ne_some]
  constructor
  · rintro h ⟨w, rest, rfl, hw⟩
    exact h _ (countLength?_of_isCount hw rest)
  · intro h n hn
    obtain ⟨w, rest, rfl, hw, -⟩ := isCount_of_countLength? hn
    exact h ⟨w, rest, rfl, hw⟩

theorem isNonCapturing_iff {cs : List Char} : isNonCapturing ('?' :: cs) = true ↔ BeginsFlags cs := by
  rw [isNonCapturing, decide_eq_true_eq]
  constructor
  · intro h
    obtain ⟨rest, hrest⟩ : ∃ rest, cs.dropWhile isFlagChar = ':' :: rest := by
      cases hd : cs.dropWhile isFlagChar with
      | nil => simp [hd] at h
      | cons c rest => exact ⟨rest, by simpa [hd] using h⟩
    exact ⟨cs.takeWhile isFlagChar, rest, by rw [← hrest, List.takeWhile_append_dropWhile],
      fun c hc => List.mem_takeWhile_imp hc⟩
  · rintro ⟨w, rest, rfl, hw⟩
    rw [dropWhile_append_cons hw (by decide)]
    rfl

theorem beginsFlags_append_iff {w rest : List Char} {c : Char}
    (hw : ∀ c ∈ w, isFlagChar c = true) (hc : isFlagChar c = false) :
    BeginsFlags (w ++ c :: rest) ↔ c = ':' := by
  rw [← isNonCapturing_iff, isNonCapturing, dropWhile_append_cons hw hc]
  simp

/-! ## One row of tokens -/

theorem tokensFrom_eq (n : Nat) (cs : List Char) : tokensFrom n cs = tokens (cs.drop n) := by
  induction n generalizing cs with
  | zero => rfl
  | succ n ih =>
    cases cs with
    | nil => rfl
    | cons c cs => rw [tokensFrom, ih, List.drop_succ_cons]

theorem tokens_cons (c : Char) (cs : List Char) :
    tokens (c :: cs) = (token c cs).1 :: tokens (cs.drop (token c cs).2) := by
  rw [← tokensFrom_eq]
  rfl

theorem token_of_not_special {c : Char} (h : c ∉ specials) (cs : List Char) :
    token c cs = (.literal, 0) := by
  unfold token
  split
  case h_9 => rfl
  all_goals exact absurd (by decide) h

theorem isNonCapturing_of_head {cs : List Char} (h : cs.head? ≠ some '?') :
    isNonCapturing cs = false := by
  unfold isNonCapturing
  split
  · exact absurd rfl h
  · rfl

theorem cuts_paren (cs : List Char) : Cuts ('(' :: cs) [.opening (isNonCapturing cs)]
    (cs.drop (if cs.head? = some '?' then 1 else 0)) := by
  by_cases hq : cs.head? = some '?'
  · obtain ⟨tail, rfl⟩ := List.head?_eq_some_iff.mp hq
    rw [if_pos hq, List.drop_succ_cons, List.drop_zero]
    by_cases hf : BeginsFlags tail
    · rw [isNonCapturing_iff.mpr hf]
      exact .nonCapturing hf (.nil tail)
    · have hn : isNonCapturing ('?' :: tail) = false := by
        rwa [← Bool.not_eq_true, isNonCapturing_iff]
      rw [hn]
      exact .asking hf (.nil tail)
  · rw [if_neg hq, isNonCapturing_of_head hq]
    exact .opening hq (.nil cs)

theorem cuts_openBrace (cs : List Char) :
    Cuts ('{' :: cs) [(token '{' cs).1] (cs.drop (token '{' cs).2) := by
  cases hl : countLength? cs with
  | none => simpa [token, hl] using Cuts.brace (countLength?_eq_none_iff.mp hl) (.nil cs)
  | some n =>
    obtain ⟨w, rest, rfl, hw, rfl⟩ := isCount_of_countLength? hl
    simpa [token, hl, drop_append_cons] using Cuts.counted hw (.nil rest)

/-- The grammar cuts a token off the front of every text. -/
theorem cuts_token (c : Char) (cs : List Char) :
    Cuts (c :: cs) [(token c cs).1] (cs.drop (token c cs).2) := by
  by_cases hc : c ∈ specials
  · simp only [specials, List.mem_cons, List.not_mem_nil, or_false] at hc
    rcases hc with rfl | rfl | rfl | rfl | rfl | rfl | rfl | rfl
    · cases cs with
      | nil => exact .lastEscape
      | cons d cs => exact .escape (by simpa [token] using Cuts.nil cs)
    · exact .bracket (.nil _)
    · exact cuts_paren cs
    · exact .closing (.nil _)
    · exact .plus (.nil _)
    · exact .star (.nil _)
    · exact cuts_openBrace cs
    · exact .optional (.nil _)
  · rw [token_of_not_special hc]
    exact .literal hc (.nil cs)

theorem cuts_nil_iff {cs rest : List Char} : Cuts cs [] rest ↔ rest = cs := by
  constructor
  · intro h
    cases h
    rfl
  · rintro rfl
    exact .nil rest

/-- **The grammar cuts off** what the screening takes for the first token. -/
theorem cuts_cons_iff {cs rest : List Char} {t : Token} {ts : List Token} :
    Cuts cs (t :: ts) rest ↔ ∃ c tail, cs = c :: tail ∧ t = (token c tail).1 ∧
      Cuts (tail.drop (token c tail).2) ts rest := by
  constructor
  · intro h
    cases h with
    | @escape c cs _ _ h => exact ⟨_, _, rfl, rfl, by simpa [token] using h⟩
    | lastEscape => exact ⟨_, _, rfl, rfl, .nil []⟩
    | bracket h | closing h | plus h | star h | optional h => exact ⟨_, _, rfl, rfl, h⟩
    | opening hq h =>
      exact ⟨_, _, rfl, by simp [token, isNonCapturing_of_head hq], by simpa [token, hq] using h⟩
    | asking hf h =>
      rw [← isNonCapturing_iff, Bool.not_eq_true] at hf
      exact ⟨_, _, rfl, by simp [token, hf], by simpa [token] using h⟩
    | nonCapturing hf h =>
      exact ⟨_, _, rfl, by simp [token, isNonCapturing_iff.mpr hf], by simpa [token] using h⟩
    | @counted w cs _ _ hw h =>
      exact ⟨_, _, rfl, by simp [token, countLength?_of_isCount hw],
        by simpa [token, countLength?_of_isCount hw, drop_append_cons] using h⟩
    | brace hb h =>
      rw [← countLength?_eq_none_iff] at hb
      exact ⟨_, _, rfl, by simp [token, hb], by simpa [token, hb] using h⟩
    | literal hc h =>
      exact ⟨_, _, rfl, by simp [token_of_not_special hc], by simpa [token_of_not_special hc] using h⟩
  · rintro ⟨c, tail, rfl, rfl, h⟩
    exact (cuts_token c tail).append h

theorem Cuts.tokens_eq {cs rest : List Char} {ts : List Token} (h : Cuts cs ts rest) :
    tokens cs = ts ++ tokens rest := by
  induction ts generalizing cs with
  | nil => rw [cuts_nil_iff.mp h, List.nil_append]
  | cons t ts ih =>
    obtain ⟨c, tail, rfl, rfl, htail⟩ := cuts_cons_iff.mp h
    rw [tokens_cons, ih htail, List.cons_append]

theorem cuts_tokens (cs : List Char) : Cuts cs (tokens cs) [] := by
  induction hn : cs.length using Nat.strong_induction_on generalizing cs with
  | h n ih =>
    cases cs with
    | nil => exact .nil []
    | cons c cs =>
      rw [tokens_cons]
      refine (cuts_token c cs).append (ih _ ?_ _ rfl)
      rw [← hn, List.length_drop, List.length_cons]
      omega

/-- **A pattern has one row of tokens.** -/
theorem cuts_iff {cs : List Char} {ts : List Token} : Cuts cs ts [] ↔ ts = tokens cs := by
  constructor
  · intro h
    have htokens := h.tokens_eq
    rw [show tokens [] = [] from rfl, List.append_nil] at htokens
    exact htokens.symm
  · rintro rfl
    exact cuts_tokens cs

end PostingRules.Guard
