import PostingRules.Pattern.Reader
import PostingRules.Pattern.Search
import PostingRules.Proofs.Pattern.Continuation
import PostingRules.Proofs.Text.Ascii

/-!
# Patterns of literals

A pattern of ASCII letters, digits and blanks, with an anchor at its start or its end or without, is
read as the row of its characters, and found where they stand in either case.

* `isLiteral`, `framed`: the characters that stand for themselves, and a row of them between anchors;
* `piece`, **`read?_framed`**: the part that a character is read as, and the whole pattern;
* `ends_seqs_cons`, `ends_seqs_append`: the places where a row of parts ends;
* `mem_ends_literals_iff`: where a row of literals ends;
* **`found_framed_iff`**: where a row of literals between anchors is found.
-/

namespace PostingRules

open PostingRules.Text PostingRules.Text.Property PostingRules.PatternReader

/-! ## Literals between anchors -/

/-- Does the character stand for itself in every pattern? -/
def isLiteral (c : Char) : Bool := c = ' ' || c.isAlphanum

/-- The text between an anchor at its start, if there is one, and an anchor at its end. -/
def framed (atStart : Bool) (v : List Char) (atEnd : Bool) : List Char :=
  (if atStart then ['^'] else []) ++ v ++ (if atEnd then ['$'] else [])

/-- Is the character a literal or an anchor? -/
def isPiece (c : Char) : Bool := isLiteral c || c = '^' || c = '$'

/-- The part of a pattern that a literal or an anchor is read as. -/
def piece (c : Char) : Pattern :=
  if c = '^' then .look .textStart else if c = '$' then .look .textEnd else literal {} c

theorem toNat_lt_of_isLiteral {c : Char} (h : isLiteral c = true) : c.toNat < 128 := by
  have halphanum : c.isAlphanum = (decide (c.val ≥ 'A'.val ∧ c.val ≤ 'Z'.val) ||
      c.val ≥ 'a'.val && c.val ≤ 'z'.val || c.val ≥ '0'.val && c.val ≤ '9'.val) := rfl
  simp only [isLiteral, halphanum, Bool.or_eq_true, Bool.and_eq_true, decide_eq_true_eq,
    UInt32.le_iff_toNat_le, ge_iff_le] at h
  rcases h with rfl | ((⟨-, h⟩ | ⟨-, h⟩) | ⟨-, h⟩)
  · decide
  · exact h.trans_lt (by decide)
  · exact h.trans_lt (by decide)
  · exact h.trans_lt (by decide)

theorem isPiece_of_isLiteral {c : Char} (h : isLiteral c = true) : isPiece c = true := by
  rw [isPiece, h, Bool.true_or, Bool.true_or]

theorem isPiece_framed {v : List Char} (hv : ∀ c ∈ v, isLiteral c = true) (a b : Bool) :
    ∀ c ∈ framed a v b, isPiece c = true := by
  have hanchors : ∀ w : Bool, (∀ c ∈ (if w then ['^'] else []), isPiece c = true) ∧
      ∀ c ∈ (if w then ['$'] else []), isPiece c = true := by simp [isPiece]
  exact List.forall_mem_append.mpr ⟨List.forall_mem_append.mpr
    ⟨(hanchors a).1, fun c hc => isPiece_of_isLiteral (hv c hc)⟩, (hanchors b).2⟩

/-! ## Reading -/

section

variable {s : Progress} {c : Char} {cs : List Char}

theorem step_literal (h : isLiteral c = true) :
    s.step c cs = some (s.push (literal s.flags c), cs) := by
  unfold Progress.step
  split
  case h_13 => rfl
  all_goals exact absurd h (by decide)

theorem step_piece (hf : s.flags = {}) (h : isPiece c = true) :
    s.step c cs = some (s.push (piece c), cs) := by
  unfold piece
  split
  · next hc => rw [hc, Progress.step, hf, caret]; rfl
  split
  · next hc => rw [hc, Progress.step, hf, dollar]; rfl
  · next hcaret hdollar =>
    have hc : isLiteral c = true := by simpa [isPiece, hcaret, hdollar] using h
    rw [step_literal hc, hf]

/-- Literals and anchors become parts of the level that is read. -/
theorem readFrom_pieces {fuel : Nat} (hf : s.flags = {}) (ha : s.around = [])
    (h : ∀ c ∈ cs, isPiece c = true) (hfuel : cs.length < fuel) :
    readFrom fuel s cs = some (Level.pattern
      ⟨s.level.branches, (cs.map fun c => some (piece c)).reverse ++ s.level.parts⟩) := by
  have hskip : ∀ text, skip s.flags text = text := skip_eq (by rw [hf])
  induction cs generalizing s fuel with
  | nil =>
    obtain ⟨fuel, rfl⟩ := Nat.exists_eq_succ_of_ne_zero (Nat.ne_of_gt hfuel)
    rw [readFrom, hskip]
    simp [ha]
  | cons c cs ih =>
    obtain ⟨fuel, rfl⟩ := Nat.exists_eq_succ_of_ne_zero (Nat.ne_of_gt (Nat.zero_lt_of_lt hfuel))
    rw [List.forall_mem_cons] at h
    rw [readFrom, hskip]
    simp only [step_piece hf h.1, Option.bind_some]
    rw [ih (s := s.push (piece c)) hf ha h.2 (by simpa using hfuel) hskip]
    simp [Progress.push, Level.push]

end

theorem parse?_pieces {cs : List Char} (h : ∀ c ∈ cs, isPiece c = true) :
    Pattern.parse? cs = some (.seqs (cs.map piece)) := by
  rw [Pattern.parse?, readFrom_pieces rfl rfl h (Nat.lt_succ_self _)]
  simp [Level.pattern, Level.branch, Pattern.alts, List.filterMap_map]

/-- A row of parts is as large as they are together. -/
theorem bytes_seqs_le {ps : List Pattern} {n : Nat} (h : ∀ p ∈ ps, p.bytes ≤ n) :
    (Pattern.seqs ps).bytes ≤ n * ps.length + 32 := by
  induction ps with
  | nil => exact Nat.le_add_left 32 _
  | cons p ps ih =>
    rw [List.forall_mem_cons] at h
    have hrest := ih h.2
    rw [List.length_cons, Nat.mul_succ]
    cases ps with
    | nil => exact (h.1.trans (Nat.le_add_left _ _)).trans (Nat.le_add_right _ _)
    | cons q ps =>
      change p.bytes + (Pattern.seqs (q :: ps)).bytes ≤ _
      omega

theorem bytes_piece_le (c : Char) : (piece c).bytes ≤ 320 := by
  unfold piece
  split
  · decide
  split
  · decide
  · change (if _ then 64 + 8 * 4 else 64 * 5) ≤ 320
    split <;> decide

/-- **The pattern of a row of literals** between anchors. -/
theorem read?_framed {v : List Char} (hv : ∀ c ∈ v, isLiteral c = true) {a b : Bool}
    (hlen : (framed a v b).length ≤ 200) :
    Pattern.read? (framed a v b) = some (.seqs ((framed a v b).map piece)) := by
  have hbytes : (Pattern.seqs ((framed a v b).map piece)).bytes ≤ sizeLimit := by
    have hsum := bytes_seqs_le (List.forall_mem_map.mpr fun c (_ : c ∈ framed a v b) =>
      bytes_piece_le c)
    rw [List.length_map] at hsum
    unfold sizeLimit
    omega
  rw [Pattern.read?, parse?_pieces (isPiece_framed hv a b), Option.bind_some, if_pos hbytes]

/-- A row of literals between anchors is not refused. -/
theorem isSafe_framed {v : List Char} (hv : ∀ c ∈ v, isLiteral c = true) {a b : Bool}
    (hlen : (framed a v b).length ≤ 200) : Guard.isSafe (framed a v b) = true := by
  have hplain : ∀ c ∈ framed a v b, c ∉ Guard.specials := fun c hc =>
    Guard.not_mem_specials (by decide) (isPiece_framed hv a b c hc)
  rw [Guard.isSafe, Guard.rejection?_of_length_le hlen, Guard.scan_idle (Guard.isIdle_literals hplain)]
  rfl

/-! ## Searching -/

section

variable {t : Array Char} {cs : List Char}

theorem ends_seqs_cons (p : Pattern) (ps : List Pattern) (s : List Nat) :
    (Pattern.seqs (p :: ps)).ends t s = (Pattern.seqs ps).ends t (p.ends t s) := by
  cases ps <;> rfl

theorem ends_seqs_append (ps qs : List Pattern) (s : List Nat) :
    (Pattern.seqs (ps ++ qs)).ends t s = (Pattern.seqs qs).ends t ((Pattern.seqs ps).ends t s) := by
  induction ps generalizing s with
  | nil => rfl
  | cons p ps ih => rw [List.cons_append, ends_seqs_cons, ends_seqs_cons, ih]

theorem found_iff {p : Pattern} :
    p.found cs = true ↔ ∃ j, j ∈ p.ends cs.toArray (List.range (cs.length + 1)) := by
  rw [Pattern.found, Bool.not_eq_true', List.isEmpty_eq_false_iff_exists_mem]

theorem mem_ends_literal_iff {c : Char} (hc : isLiteral c = true) (hcs : ∀ d ∈ cs, d.toNat < 128)
    {s : List Nat} {j : Nat} : j ∈ (piece c).ends cs.toArray s ↔
      ∃ i ∈ s, j = i + 1 ∧ ∃ d, cs[i]? = some d ∧ asciiLower d = asciiLower c := by
  have hcaret : c ≠ '^' := by
    rintro rfl
    exact absurd hc (by decide)
  have hdollar : c ≠ '$' := by
    rintro rfl
    exact absurd hc (by decide)
  have hhas : ∀ {i d}, cs[i]? = some d → ((CharSet.folded (.single c)).has d = true ↔
      asciiLower d = asciiLower c) := fun hd =>
    has_folded_single_ascii_iff (toNat_lt_of_isLiteral hc) (hcs _ (List.mem_of_getElem? hd))
  have hpiece : piece c = .set (.folded (.single c)) := by
    rw [piece, if_neg hcaret, if_neg hdollar]
    rfl
  rw [hpiece, Pattern.ends, List.mem_filterMap]
  refine exists_congr fun i => and_congr_right fun _ => ?_
  rw [List.getElem?_toArray, Option.bind_eq_some_iff]
  constructor
  · rintro ⟨d, hd, h⟩
    split at h
    · next hset =>
      cases h
      exact ⟨rfl, d, hd, (hhas hd).mp hset⟩
    · cases h
  · rintro ⟨rfl, d, hd, h⟩
    exact ⟨d, hd, if_pos ((hhas hd).mpr h)⟩

theorem cons_prefix_drop_iff {c : Char} {v : List Char} {i : Nat} :
    (c :: v).map asciiLower <+: (cs.drop i).map asciiLower ↔
      (∃ d, cs[i]? = some d ∧ asciiLower d = asciiLower c) ∧
        v.map asciiLower <+: (cs.drop (i + 1)).map asciiLower := by
  rw [← List.head?_drop, ← List.tail_drop]
  cases cs.drop i with
  | nil => simp
  | cons d rest => simp [List.cons_prefix_cons, eq_comm]

/-- **A row of literals** ends where they have been read, in either case. -/
theorem mem_ends_literals_iff {v : List Char} (hv : ∀ c ∈ v, isLiteral c = true)
    (hcs : ∀ d ∈ cs, d.toNat < 128) {s : List Nat} {j : Nat} :
    j ∈ (Pattern.seqs (v.map piece)).ends cs.toArray s ↔
      ∃ i ∈ s, j = i + v.length ∧ v.map asciiLower <+: (cs.drop i).map asciiLower := by
  induction v generalizing s with
  | nil => simp [Pattern.seqs, Pattern.ends]
  | cons c v ih =>
    rw [List.forall_mem_cons] at hv
    rw [List.map_cons, ends_seqs_cons, ih hv.2]
    simp only [mem_ends_literal_iff hv.1 hcs, cons_prefix_drop_iff, List.length_cons]
    constructor
    · rintro ⟨_, ⟨i, hi, rfl, hd⟩, rfl, hrest⟩
      exact ⟨i, hi, by omega, hd, hrest⟩
    · rintro ⟨i, hi, rfl, hd, hrest⟩
      exact ⟨i + 1, ⟨i, hi, rfl, hd⟩, by omega, hrest⟩

/-- **A row of literals between anchors** is found where the text, in lower case, holds it, at the
start and at the end where an anchor is there. -/
theorem found_framed_iff {v : List Char} (hv : ∀ c ∈ v, isLiteral c = true)
    (hcs : ∀ d ∈ cs, d.toNat < 128) (a b : Bool) :
    (Pattern.seqs ((framed a v b).map piece)).found cs = true ↔
      ∃ i ≤ cs.length, (a = true → i = 0) ∧ (b = true → i + v.length = cs.length) ∧
        v.map asciiLower <+: (cs.drop i).map asciiLower := by
  have hstart : (Pattern.seqs ((if a then ['^'] else []).map piece)).ends cs.toArray
      (List.range (cs.length + 1)) = (List.range (cs.length + 1)).filter fun i => !a || i = 0 := by
    cases a
    · simp [Pattern.seqs, Pattern.ends]
    · rfl
  have hend : ∀ s, (Pattern.seqs ((if b then ['$'] else []).map piece)).ends cs.toArray s =
      s.filter fun i => !b || i = cs.length := by
    intro s
    cases b
    · simp [Pattern.seqs, Pattern.ends]
    · rfl
  rw [found_iff, framed, List.map_append, List.map_append, ends_seqs_append, ends_seqs_append, hstart,
    hend]
  simp only [List.mem_filter, mem_ends_literals_iff hv hcs, List.mem_range, Bool.or_eq_true,
    Bool.not_eq_true', decide_eq_true_eq, Nat.lt_succ_iff]
  constructor
  · rintro ⟨_, ⟨i, ⟨hi, ha⟩, rfl, hprefix⟩, hb⟩
    exact ⟨i, hi, by grind, by grind, hprefix⟩
  · rintro ⟨i, hi, ha, hb, hprefix⟩
    exact ⟨_, ⟨i, ⟨hi, by grind⟩, rfl, hprefix⟩, by grind⟩

end

end PostingRules
