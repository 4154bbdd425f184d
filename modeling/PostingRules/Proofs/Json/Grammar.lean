import PostingRules.Proofs.Json
import Mathlib.Data.List.TakeWhile

/-!
# The grammar of JSON

The reader is compared with the grammar: what the parts of a value look like is said here without it.

* `IsNumber`; `IsPieces`, `Makes`, `IsString`: numbers, and what stands between the quotes of a string;
* `IsValue`, `IsText`, `IsItems`, `IsMember`, `IsMembers`: values, values between blanks, and what
  stands between the brackets of arrays and objects;
* `readNumber_append`, `of_readNumber`, `readString_eq_some_iff`: the leaves are read;
* `Reads`, `Reads.succ`: as much fuel as a value has characters suffices; `Writes`, `Writes.succ`: what
  is read is a value;
* **`read?_eq_some_iff`**: the texts that are read are those of the grammar, with the values they write.
-/

namespace PostingRules.Json

open PostingRules.Text

/-! ## Numbers -/

/-- Digits, one at least. -/
def IsDigits (ds : List Char) : Prop := ds ≠ [] ∧ ∀ c ∈ ds, isDigit c = true

/-- A zero, or digits that begin with another. -/
def IsWhole (w : List Char) : Prop := w = ['0'] ∨ IsDigits w ∧ w.head? ≠ some '0'

/-- Nothing, or a point with digits behind it. -/
def IsFraction (w : List Char) : Prop := w = [] ∨ ∃ ds, w = '.' :: ds ∧ IsDigits ds

/-- Nothing, or an `e` with digits behind it, which may have a sign. -/
def IsExponent (w : List Char) : Prop :=
  w = [] ∨ ∃ e sign ds, w = e :: (sign ++ ds) ∧ (e = 'e' ∨ e = 'E') ∧
    sign ∈ [[], ['+'], ['-']] ∧ IsDigits ds

/-- **A number.** -/
def IsNumber (w : List Char) : Prop :=
  ∃ sign whole fraction exponent, w = sign ++ (whole ++ (fraction ++ exponent)) ∧
    sign ∈ [[], ['-']] ∧ IsWhole whole ∧ IsFraction fraction ∧ IsExponent exponent

/-- No digit stands first. -/
def NoDigit (rest : List Char) : Prop := ∀ c ∈ rest.head?, isDigit c = false

theorem readDigits1_eq_some_iff {cs ds rest : List Char} :
    readDigits1 cs = some (ds, rest) ↔ cs = ds ++ rest ∧ IsDigits ds ∧ NoDigit rest := by
  have hread : readDigits1 cs = some (ds, rest) ↔
      ds ≠ [] ∧ cs.takeWhile isDigit = ds ∧ cs.dropWhile isDigit = rest := by
    unfold readDigits1
    cases htake : cs.takeWhile isDigit with
    | nil => simpa using fun hne hnil => absurd hnil hne
    | cons d digits => simpa using fun hds _ => hds ▸ List.cons_ne_nil d digits
  rw [hread]
  constructor
  · rintro ⟨hne, rfl, rfl⟩
    refine ⟨List.takeWhile_append_dropWhile.symm, ⟨hne, fun c hc => List.mem_takeWhile_imp hc⟩, ?_⟩
    intro c hc
    have hhead := List.head?_dropWhile_not isDigit cs
    rw [Option.mem_def.mp hc] at hhead
    simpa using hhead
  · rintro ⟨rfl, ⟨hne, hds⟩, hrest⟩
    rw [List.takeWhile_append_of_pos hds, List.dropWhile_append_of_pos hds]
    cases rest with
    | nil => simpa using hne
    | cons c rest =>
      have hc : isDigit c = false := hrest c rfl
      simpa [hc] using hne

/-- Digits behind what has been read. -/
theorem map_readDigits1_eq_some_iff (front : List Char) {cs w rest : List Char} :
    ((readDigits1 cs).map fun p => (front ++ p.1, p.2)) = some (w, rest) ↔
      ∃ ds, w = front ++ ds ∧ cs = ds ++ rest ∧ IsDigits ds ∧ NoDigit rest := by
  simp only [Option.map_eq_some_iff, Prod.exists, readDigits1_eq_some_iff, Prod.mk.injEq]
  constructor
  · rintro ⟨ds, _, h, rfl, rfl⟩
    exact ⟨ds, rfl, h⟩
  · rintro ⟨ds, rfl, h⟩
    exact ⟨ds, rest, h, rfl, rfl⟩

theorem IsDigits.exists_cons {ds : List Char} (h : IsDigits ds) :
    ∃ d tail, ds = d :: tail ∧ isDigit d = true := by
  obtain ⟨d, tail, rfl⟩ := List.exists_cons_of_ne_nil h.1
  exact ⟨d, tail, rfl, h.2 d List.mem_cons_self⟩

theorem readWhole_append {w rest : List Char} (hw : IsWhole w) (hrest : NoDigit rest) :
    readWhole (w ++ rest) = some (w, rest) := by
  rcases hw with rfl | ⟨hw, hhead⟩
  · rfl
  · obtain ⟨d, tail, rfl, -⟩ := hw.exists_cons
    rw [readWhole]
    · exact readDigits1_eq_some_iff.mpr ⟨rfl, hw, hrest⟩
    · rintro cs ⟨⟩
      exact hhead rfl

theorem of_readWhole {cs w rest : List Char} (h : readWhole cs = some (w, rest)) :
    cs = w ++ rest ∧ IsWhole w := by
  unfold readWhole at h
  split at h
  · cases h
    exact ⟨rfl, Or.inl rfl⟩
  · next hzero =>
    obtain ⟨rfl, hw, -⟩ := readDigits1_eq_some_iff.mp h
    obtain ⟨d, tail, rfl, -⟩ := hw.exists_cons
    refine ⟨rfl, Or.inr ⟨hw, ?_⟩⟩
    rintro ⟨⟩
    exact hzero _ rfl

theorem readFraction_append {w rest : List Char} (hw : IsFraction w) (hrest : NoDigit rest)
    (hpoint : rest.head? ≠ some '.') : readFraction (w ++ rest) = some (w, rest) := by
  rcases hw with rfl | ⟨ds, rfl, hds⟩
  · rw [List.nil_append, readFraction]
    rintro cs rfl
    exact hpoint rfl
  · exact (map_readDigits1_eq_some_iff ['.']).mpr ⟨ds, rfl, rfl, hds, hrest⟩

theorem of_readFraction {cs w rest : List Char} (h : readFraction cs = some (w, rest)) :
    cs = w ++ rest ∧ IsFraction w := by
  unfold readFraction at h
  split at h
  · obtain ⟨ds, rfl, rfl, hds, -⟩ := (map_readDigits1_eq_some_iff ['.']).mp h
    exact ⟨rfl, Or.inr ⟨ds, rfl, hds⟩⟩
  · cases h
    exact ⟨rfl, Or.inl rfl⟩

theorem readExponent_append {w rest : List Char} (hw : IsExponent w) (hrest : NoDigit rest)
    (hletter : ∀ c ∈ rest.head?, ¬ (c = 'e' ∨ c = 'E')) :
    readExponent (w ++ rest) = some (w, rest) := by
  rcases hw with rfl | ⟨e, sign, ds, rfl, he, hsign, hds⟩
  · cases rest with
    | nil => rfl
    | cons c rest => exact if_neg (hletter c rfl)
  · have hread : ((readDigits1 (ds ++ rest)).map fun p => (e :: sign ++ p.1, p.2)) =
        some (e :: (sign ++ ds), rest) :=
      (map_readDigits1_eq_some_iff _).mpr ⟨ds, rfl, rfl, hds, hrest⟩
    simp only [List.mem_cons, List.not_mem_nil, or_false] at hsign
    rcases hsign with rfl | rfl | rfl
    · obtain ⟨d, tail, rfl, hd⟩ := hds.exists_cons
      rw [List.nil_append, List.cons_append, List.cons_append, readExponent, if_pos he]
      · exact hread
      · rintro _ ⟨⟩
        cases hd
      · rintro _ ⟨⟩
        cases hd
    · rw [List.cons_append, List.append_assoc, List.singleton_append, readExponent, if_pos he]
      exact hread
    · rw [List.cons_append, List.append_assoc, List.singleton_append, readExponent, if_pos he]
      exact hread

theorem of_readExponent {cs w rest : List Char} (h : readExponent cs = some (w, rest)) :
    cs = w ++ rest ∧ IsExponent w := by
  unfold readExponent at h
  split at h
  · next e cs =>
    split at h
    · next he =>
      have hread : ∀ sign tail, sign ∈ [[], ['+'], ['-']] →
          ((readDigits1 tail).map fun p => (e :: sign ++ p.1, p.2)) = some (w, rest) →
          e :: (sign ++ tail) = w ++ rest ∧ IsExponent w := by
        intro sign tail hsign hmap
        obtain ⟨ds, rfl, rfl, hds, -⟩ := (map_readDigits1_eq_some_iff _).mp hmap
        exact ⟨by simp, Or.inr ⟨e, sign, ds, rfl, he, hsign, hds⟩⟩
      split at h
      · exact hread ['+'] _ (by decide) h
      · exact hread ['-'] _ (by decide) h
      · exact hread [] _ (by decide) h
    · cases h
      exact ⟨rfl, Or.inl rfl⟩
  · cases h
    exact ⟨rfl, Or.inl rfl⟩

/-- A value ends in front of the text: nothing follows, or a blank, a comma or a closing bracket. -/
def Stops (rest : List Char) : Prop :=
  ∀ c ∈ rest.head?, isBlankChar c = true ∨ c ∈ [',', ']', '\x7d']

theorem Stops.of_all {p : Char → Bool} {rest : List Char} (h : Stops rest)
    (hp : [' ', '\n', '\t', '\r', ',', ']', '\x7d'].all p = true) : ∀ c ∈ rest.head?, p c = true := by
  intro c hc
  refine List.all_eq_true.mp hp c ?_
  rcases h c hc with hblank | hclose
  · simp only [isBlankChar, Bool.or_eq_true, decide_eq_true_eq] at hblank
    rcases hblank with ((rfl | rfl) | rfl) | rfl <;> decide
  · exact List.mem_append_right [' ', '\n', '\t', '\r'] hclose

theorem IsExponent.head? {w rest : List Char} (h : IsExponent w) :
    ∀ c ∈ (w ++ rest).head?, c = 'e' ∨ c = 'E' ∨ c ∈ rest.head? := by
  rcases h with rfl | ⟨e, sign, ds, rfl, he, -⟩
  · exact fun c hc => Or.inr (Or.inr hc)
  · rintro c ⟨⟩
    exact he.imp_right Or.inl

theorem IsFraction.head? {w rest : List Char} (h : IsFraction w) :
    ∀ c ∈ (w ++ rest).head?, c = '.' ∨ c ∈ rest.head? := by
  rcases h with rfl | ⟨ds, rfl, -⟩
  · exact fun c hc => Or.inr hc
  · rintro c ⟨⟩
    exact Or.inl rfl

theorem IsWhole.exists_cons {w : List Char} (h : IsWhole w) :
    ∃ d tail, w = d :: tail ∧ isDigit d = true := by
  rcases h with rfl | ⟨hw, -⟩
  · exact ⟨'0', [], rfl, by decide⟩
  · exact hw.exists_cons

theorem readNumber_sign {sign cs : List Char} (hsign : sign ∈ [[], ['-']])
    (hcs : sign = [] → cs.head? ≠ some '-') : readNumber (sign ++ cs) =
      (readWhole cs).bind fun p => (readFraction p.2).bind fun q => (readExponent q.2).bind fun r =>
        some (.number (sign ++ (p.1 ++ (q.1 ++ r.1))), r.2) := by
  simp only [List.mem_cons, List.not_mem_nil, or_false] at hsign
  rcases hsign with rfl | rfl
  · have hsplit : readNumber cs = (readWhole cs).bind fun p => (readFraction p.2).bind fun q =>
        (readExponent q.2).bind fun r => some (.number ([] ++ p.1 ++ q.1 ++ r.1), r.2) := by
      unfold readNumber
      split
      next h =>
      split at h
      · exact absurd rfl (hcs rfl)
      · cases h
        rfl
    simpa using hsplit
  · simp [readNumber, List.append_assoc]

/-- **A number is read**, whatever stands behind it that ends a value. -/
theorem readNumber_append {w rest : List Char} (hw : IsNumber w) (hrest : Stops rest) :
    readNumber (w ++ rest) = some (.number w, rest) := by
  obtain ⟨sign, whole, fraction, exponent, rfl, hsign, hwhole, hfraction, hexponent⟩ := hw
  have hend : ∀ c ∈ rest.head?, isDigit c = false ∧ c ≠ '.' ∧ ¬ (c = 'e' ∨ c = 'E') := fun c hc => by
    simpa [and_assoc] using hrest.of_all
      (p := fun c => !isDigit c && c != '.' && !(c = 'e' || c = 'E')) (by decide) c hc
  have hdigit : NoDigit rest := fun c hc => (hend c hc).1
  have hbehind : ∀ c ∈ (exponent ++ rest).head?, isDigit c = false ∧ c ≠ '.' := by
    intro c hc
    rcases hexponent.head? c hc with rfl | rfl | hc
    · decide
    · decide
    · exact ⟨(hend c hc).1, (hend c hc).2.1⟩
  have hfrac : NoDigit (fraction ++ (exponent ++ rest)) := by
    intro c hc
    rcases hfraction.head? c hc with rfl | hc
    · decide
    · exact (hbehind c hc).1
  have hhead : (whole ++ (fraction ++ (exponent ++ rest))).head? ≠ some '-' := by
    obtain ⟨d, tail, rfl, hd⟩ := hwhole.exists_cons
    rintro ⟨⟩
    cases hd
  simp only [List.append_assoc]
  rw [readNumber_sign hsign fun _ => hhead, readWhole_append hwhole hfrac, Option.bind_some,
    readFraction_append hfraction (fun c hc => (hbehind c hc).1) fun hc => (hbehind _ hc).2 rfl,
    Option.bind_some, readExponent_append hexponent hdigit fun c hc => (hend c hc).2.2,
    Option.bind_some]

theorem of_readNumber {cs rest : List Char} {v : Value} (h : readNumber cs = some (v, rest)) :
    ∃ w, cs = w ++ rest ∧ v = .number w ∧ IsNumber w := by
  obtain ⟨sign, tail, rfl, hsign, htail⟩ : ∃ sign tail, cs = sign ++ tail ∧ sign ∈ [[], ['-']] ∧
      (sign = [] → tail.head? ≠ some '-') := by
    by_cases hhead : cs.head? = some '-'
    · obtain ⟨tail, rfl⟩ := List.head?_eq_some_iff.mp hhead
      exact ⟨['-'], tail, rfl, by decide, nofun⟩
    · exact ⟨[], cs, rfl, by decide, fun _ => hhead⟩
  rw [readNumber_sign hsign htail] at h
  obtain ⟨⟨whole, tail₁⟩, hwhole, h₁⟩ := Option.bind_eq_some_iff.mp h
  obtain ⟨⟨fraction, tail₂⟩, hfraction, h₂⟩ := Option.bind_eq_some_iff.mp h₁
  obtain ⟨⟨exponent, tail₃⟩, hexponent, h₃⟩ := Option.bind_eq_some_iff.mp h₂
  cases h₃
  obtain ⟨rfl, hw⟩ := of_readWhole hwhole
  obtain ⟨rfl, hf⟩ := of_readFraction hfraction
  obtain ⟨rfl, he⟩ := of_readExponent hexponent
  exact ⟨_, by simp only [List.append_assoc], rfl, sign, whole, fraction, exponent, rfl, hsign,
    hw, hf, he⟩

/-! ## Strings -/

/-- The letters that stand behind a backslash, and what they stand for. -/
def escapes : List (Char × Char) :=
  [('"', '"'), ('\\', '\\'), ('/', '/'), ('b', '\x08'), ('f', '\x0c'), ('n', '\n'), ('r', '\r'),
    ('t', '\t')]

/-- The character is a hexadecimal digit of the value `n`. -/
def IsHexDigit (c : Char) (n : Nat) : Prop :=
  "0123456789abcdef".toList[n]? = some c ∨ "0123456789ABCDEF".toList[n]? = some c

/-- Four hexadecimal digits write the number `n`. -/
def IsHex4 (a b c d : Char) (n : Nat) : Prop :=
  ∃ i j k l, IsHexDigit a i ∧ IsHexDigit b j ∧ IsHexDigit c k ∧ IsHexDigit d l ∧
    n = ((i * 16 + j) * 16 + k) * 16 + l

/-- **What stands between the quotes of a string**, and its pieces. -/
inductive IsPieces : List Char → List Piece → Prop
  | nil : IsPieces [] []
  /-- A character that stands for itself. -/
  | plain {c cs ps} : c ≠ '"' → c ≠ '\\' → 32 ≤ c.toNat →
    IsPieces cs ps → IsPieces (c :: cs) (.char c :: ps)
  | escape {e c cs ps} : (e, c) ∈ escapes →
    IsPieces cs ps → IsPieces ('\\' :: e :: cs) (.char c :: ps)
  | number {a b c d n cs ps} : IsHex4 a b c d n →
    IsPieces cs ps → IsPieces ('\\' :: 'u' :: a :: b :: c :: d :: cs) (.unit n :: ps)

/-- **The text of some pieces.** A code unit is a character alone, or with the one behind it. -/
inductive Makes : List Piece → List Char → Prop
  | nil : Makes [] []
  | char {c ps cs} : Makes ps cs → Makes (.char c :: ps) (c :: cs)
  | unit {n ps cs} : isHigh n = false → isLow n = false →
    Makes ps cs → Makes (.unit n :: ps) (Char.ofNat n :: cs)
  | pair {h l ps cs} : isHigh h = true → isLow l = true →
    Makes ps cs → Makes (.unit h :: .unit l :: ps) (pairChar h l :: cs)

/-- **What stands between the quotes** writes a text, or none where a surrogate lacks its pair. -/
def IsString (body : List Char) (s : Option String) : Prop :=
  ∃ ps, IsPieces body ps ∧ ∀ t, s = some t ↔ Makes ps t.toList

instance (c : Char) (n : Nat) : Decidable (IsHexDigit c n) :=
  inferInstanceAs (Decidable ("0123456789abcdef".toList[n]? = some c ∨
    "0123456789ABCDEF".toList[n]? = some c))

theorem isHexDigit_of_lt :
    ∀ k < 103, ∀ n ∈ hexDigit? (Char.ofNat k), IsHexDigit (Char.ofNat k) n := by decide +kernel

theorem hexDigit?_eq_some_iff {c : Char} {n : Nat} : hexDigit? c = some n ↔ IsHexDigit c n := by
  constructor
  · intro h
    have hc : c.toNat < 103 := by
      have hle : ∀ d : Char, d.toNat < 103 → c ≤ d → c.toNat < 103 := fun d hd hcd =>
        Nat.lt_of_le_of_lt hcd hd
      unfold hexDigit? at h
      split_ifs at h with h₁ h₂ h₃
      · exact hle '9' (by decide) h₁.2
      · exact hle 'f' (by decide) h₂.2
      · exact hle 'F' (by decide) h₃.2
    rw [← Char.ofNat_toNat c] at h ⊢
    exact isHexDigit_of_lt c.toNat hc n h
  · have hdigits : ∀ n < 16,
        "0123456789abcdef".toList[n]?.all (fun c => hexDigit? c = some n) = true ∧
        "0123456789ABCDEF".toList[n]?.all (fun c => hexDigit? c = some n) = true := by decide
    rintro (h | h)
    · have hdigit := (hdigits n (List.getElem?_eq_some_iff.mp h).1).1
      rwa [h, Option.all_some, decide_eq_true_eq] at hdigit
    · have hdigit := (hdigits n (List.getElem?_eq_some_iff.mp h).1).2
      rwa [h, Option.all_some, decide_eq_true_eq] at hdigit

theorem hex4?_eq_some_iff {a b c d : Char} {n : Nat} :
    hex4? a b c d = some n ↔ IsHex4 a b c d n := by
  simp only [hex4?, IsHex4, ← hexDigit?_eq_some_iff, Option.bind_eq_bind, Option.bind_eq_some_iff,
    Option.some.injEq]
  constructor
  · rintro ⟨i, hi, j, hj, k, hk, l, hl, rfl⟩
    exact ⟨i, j, k, l, hi, hj, hk, hl, rfl⟩
  · rintro ⟨i, j, k, l, hi, hj, hk, hl, rfl⟩
    exact ⟨i, hi, j, hj, k, hk, l, hl, rfl⟩

theorem unescape?_eq_some_iff {e c : Char} : unescape? e = some c ↔ (e, c) ∈ escapes := by
  unfold unescape?
  split <;> simp_all [escapes, eq_comm]

theorem readPieces_plain {c : Char} (hquote : c ≠ '"') (hslash : c ≠ '\\') (hc : 32 ≤ c.toNat)
    (cs : List Char) : readPieces (c :: cs) =
      (readPieces cs).map fun p => (.char c :: p.1, p.2) := by
  rw [readPieces]
  · rw [if_neg (not_or.mpr ⟨hslash, by omega⟩)]
  all_goals simp_all

theorem readPieces_escape {e c : Char} (h : (e, c) ∈ escapes) (cs : List Char) :
    readPieces ('\\' :: e :: cs) = (readPieces cs).map fun p => (.char c :: p.1, p.2) := by
  have hu : e ≠ 'u' := by
    rintro rfl
    exact absurd h (by simp [escapes])
  rw [readPieces, unescape?_eq_some_iff.mpr h, Option.bind_some]
  exact fun _ _ _ _ _ he _ => hu he

theorem readPieces_append {body : List Char} {ps : List Piece} (h : IsPieces body ps)
    (rest : List Char) : readPieces (body ++ '"' :: rest) = some (ps, rest) := by
  induction h with
  | nil => rfl
  | plain hquote hslash hc _ ih => rw [List.cons_append, readPieces_plain hquote hslash hc, ih]; rfl
  | escape he _ ih => rw [List.cons_append, List.cons_append, readPieces_escape he, ih]; rfl
  | number hn _ ih =>
    simp only [List.cons_append, readPieces, hex4?_eq_some_iff.mpr hn, ih]
    rfl

theorem of_readPieces {cs : List Char} {ps : List Piece} {rest : List Char}
    (h : readPieces cs = some (ps, rest)) : ∃ body, cs = body ++ '"' :: rest ∧ IsPieces body ps := by
  fun_induction readPieces cs generalizing ps with
  | case1 => cases h
  | case2 cs =>
    cases h
    exact ⟨[], rfl, .nil⟩
  | case3 a b c d cs ih =>
    obtain ⟨n, hn, hmap⟩ := Option.bind_eq_some_iff.mp h
    obtain ⟨⟨qs, _⟩, hqs, ⟨⟩⟩ := Option.map_eq_some_iff.mp hmap
    obtain ⟨body, rfl, hbody⟩ := ih hqs
    exact ⟨_, rfl, .number (hex4?_eq_some_iff.mp hn) hbody⟩
  | case4 e cs _ ih =>
    obtain ⟨c, hc, hmap⟩ := Option.bind_eq_some_iff.mp h
    obtain ⟨⟨qs, _⟩, hqs, ⟨⟩⟩ := Option.map_eq_some_iff.mp hmap
    obtain ⟨body, rfl, hbody⟩ := ih hqs
    exact ⟨_, rfl, .escape (unescape?_eq_some_iff.mp hc) hbody⟩
  | case5 => cases h
  | case6 c cs hquote _ _ hc ih =>
    obtain ⟨⟨qs, _⟩, hqs, ⟨⟩⟩ := Option.map_eq_some_iff.mp h
    obtain ⟨body, rfl, hbody⟩ := ih hqs
    rw [not_or, Nat.not_lt] at hc
    exact ⟨_, rfl, .plain (fun h => hquote h) hc.1 hc.2 hbody⟩

theorem joinPieces_eq_some_iff {ps : List Piece} {cs : List Char} :
    joinPieces ps = some cs ↔ Makes ps cs := by
  constructor
  · intro h
    fun_induction joinPieces ps generalizing cs with
    | case1 =>
      cases h
      exact .nil
    | case2 c ps ih =>
      obtain ⟨tail, htail, rfl⟩ := Option.map_eq_some_iff.mp h
      exact .char (ih htail)
    | case3 h₁ l ps hh hl ih =>
      obtain ⟨tail, htail, rfl⟩ := Option.map_eq_some_iff.mp h
      exact .pair hh hl (ih htail)
    | case4 | case5 | case7 => cases h
    | case6 n l ps hh hl ih =>
      obtain ⟨tail, htail, rfl⟩ := Option.map_eq_some_iff.mp h
      exact .unit (by simpa using hh) (by simpa using hl) (ih htail)
    | case8 n ps _ hn ih =>
      obtain ⟨tail, htail, rfl⟩ := Option.map_eq_some_iff.mp h
      rw [Bool.or_eq_true, not_or, Bool.not_eq_true, Bool.not_eq_true] at hn
      exact .unit hn.1 hn.2 (ih htail)
  · intro h
    induction h with
    | nil => rfl
    | char _ ih => rw [joinPieces, ih, Option.map_some]
    | @unit n ps cs hh hl _ ih =>
      -- a unit that is no surrogate is a character, whatever stands behind it
      have hstep : joinPieces (.unit n :: ps) = (joinPieces ps).map (Char.ofNat n :: ·) := by
        rcases ps with _ | ⟨_ | _, ps⟩ <;> simp [joinPieces, hh, hl]
      rw [hstep, ih, Option.map_some]
    | pair hh hl _ ih => rw [joinPieces, if_pos hh, if_pos hl, ih, Option.map_some]

/-- **A string is read** behind its opening quote. -/
theorem readString_eq_some_iff {cs rest : List Char} {s : Option String} :
    readString cs = some (s, rest) ↔ ∃ body, cs = body ++ '"' :: rest ∧ IsString body s := by
  rw [readString, Option.map_eq_some_iff]
  have hjoin : ∀ ps t, (joinPieces ps).map String.ofList = some t ↔ Makes ps t.toList := by
    intro ps t
    rw [← joinPieces_eq_some_iff, Option.map_eq_some_iff]
    constructor
    · rintro ⟨cs, hcs, rfl⟩
      rw [hcs, String.toList_ofList]
    · exact fun h => ⟨_, h, String.ofList_toList⟩
  constructor
  · rintro ⟨⟨ps, _⟩, hps, ⟨⟩⟩
    obtain ⟨body, rfl, hbody⟩ := of_readPieces hps
    exact ⟨body, rfl, ps, hbody, hjoin ps⟩
  · rintro ⟨body, rfl, ps, hbody, hs⟩
    refine ⟨(ps, rest), readPieces_append hbody rest, ?_⟩
    rw [Prod.mk.injEq]
    refine ⟨Option.ext fun t => ?_, rfl⟩
    rw [hjoin, hs]

/-! ## Values -/

mutual

/-- **A value** and its text. -/
inductive IsValue : Value → List Char → Prop
  | null : IsValue .null ['n', 'u', 'l', 'l']
  | yes : IsValue (.bool true) ['t', 'r', 'u', 'e']
  | no : IsValue (.bool false) ['f', 'a', 'l', 's', 'e']
  | number {w} : IsNumber w → IsValue (.number w) w
  | string {body s} : IsString body s → IsValue (.string s) ('"' :: (body ++ ['"']))
  | emptyArray {gap} : AllBlankChars gap → IsValue (.array []) ('[' :: (gap ++ [']']))
  | array {vs body} : IsItems vs body → IsValue (.array vs) ('[' :: (body ++ [']']))
  | emptyObject {gap} : AllBlankChars gap → IsValue (.object []) ('\x7b' :: (gap ++ ['\x7d']))
  | object {ms body} : IsMembers ms body → IsValue (.object ms) ('\x7b' :: (body ++ ['\x7d']))

/-- **A value between blanks.** -/
inductive IsText : Value → List Char → Prop
  | mk {front w back v} : AllBlankChars front → IsValue v w → AllBlankChars back →
    IsText v (front ++ (w ++ back))

/-- Values with commas between them. -/
inductive IsItems : List Value → List Char → Prop
  | last {v cs} : IsText v cs → IsItems [v] cs
  | more {v cs vs rest} : IsText v cs → IsItems vs rest → IsItems (v :: vs) (cs ++ ',' :: rest)

/-- A string as the name of a value, and a colon between them. -/
inductive IsMember : Option String × Value → List Char → Prop
  | mk {front body key gap v cs} : AllBlankChars front → IsString body key → AllBlankChars gap →
    IsText v cs → IsMember (key, v) (front ++ '"' :: (body ++ '"' :: (gap ++ ':' :: cs)))

/-- Members with commas between them. -/
inductive IsMembers : List (Option String × Value) → List Char → Prop
  | last {m cs} : IsMember m cs → IsMembers [m] cs
  | more {m cs ms rest} : IsMember m cs → IsMembers ms rest → IsMembers (m :: ms) (cs ++ ',' :: rest)

end

/-! ## Reading values -/

/-- **So much fuel** suffices for values of `n` characters, and for what stands between the brackets of
arrays and objects where it is shorter. -/
structure Reads (n : Nat) : Prop where
  value : ∀ {v w rest}, IsValue v w → w.length ≤ n → Stops rest →
    readValue n (w ++ rest) = some (v, rest)
  items : ∀ {vs body} rest, IsItems vs body → body.length < n →
    readItems n (body ++ ']' :: rest) = some (vs, rest)
  members : ∀ {ms body} rest, IsMembers ms body → body.length < n →
    readMembers n (body ++ '\x7d' :: rest) = some (ms, rest)

variable {n : Nat}

theorem readValue_skipBlank (cs : List Char) : readValue n (skipBlank cs) = readValue n cs := by
  cases n with
  | zero => rfl
  | succ n => rw [readValue, readValue, skipBlank_skipBlank]

theorem readValue_append_blank {front : List Char} (hf : AllBlankChars front) (cs : List Char) :
    readValue n (front ++ cs) = readValue n cs := by
  rw [← readValue_skipBlank, skipBlank_append hf, readValue_skipBlank]

theorem stops_append {back : List Char} {c : Char} (hb : AllBlankChars back)
    (hc : c ∈ [',', ']', '\x7d']) (rest : List Char) : Stops (back ++ c :: rest) := by
  cases back with
  | nil =>
    rintro _ ⟨⟩
    exact Or.inr hc
  | cons b back =>
    rintro _ ⟨⟩
    exact Or.inl (List.all_eq_true.mp hb b List.mem_cons_self)

/-- A value between blanks is read up to the comma or bracket behind it. -/
theorem Reads.text (h : Reads n) {v : Value} {cs : List Char} (hv : IsText v cs)
    (hn : cs.length ≤ n) {c : Char} (hc : c ∈ [',', ']', '\x7d']) (rest : List Char) :
    ∃ mid, readValue n (cs ++ c :: rest) = some (v, mid) ∧ skipBlank mid = c :: rest := by
  obtain ⟨hf, hv, hb⟩ := hv
  rename_i front w back
  refine ⟨back ++ c :: rest, ?_, ?_⟩
  · rw [List.append_assoc, List.append_assoc, readValue_append_blank hf]
    refine h.value hv ?_ (stops_append hb hc rest)
    simp only [List.length_append] at hn
    omega
  · have hblank : isBlankChar c = false := by
      simp only [List.mem_cons, List.not_mem_nil, or_false] at hc
      rcases hc with rfl | rfl | rfl <;> rfl
    rw [skipBlank_append hb, skipBlank_of_not hblank]

theorem IsNumber.exists_cons {w : List Char} (h : IsNumber w) :
    ∃ c cs, w = c :: cs ∧ (c = '-' ∨ isDigit c = true) := by
  obtain ⟨sign, whole, fraction, exponent, rfl, hsign, hwhole, -⟩ := h
  simp only [List.mem_cons, List.not_mem_nil, or_false] at hsign
  rcases hsign with rfl | rfl
  · obtain ⟨d, tail, rfl, hd⟩ := hwhole.exists_cons
    exact ⟨d, _, rfl, Or.inr hd⟩
  · exact ⟨'-', _, rfl, Or.inl rfl⟩

/-- A character that a number begins with is none of those that other values begin with. -/
theorem ne_of_numberHead {c : Char} (h : c = '-' ∨ isDigit c = true) :
    isBlankChar c = false ∧ c ∉ ['"', '[', ']', '\x7b', 'n', 't', 'f'] := by
  have hdigits : ∀ k < 10, isBlankChar (Char.ofNat (48 + k)) = false ∧
      Char.ofNat (48 + k) ∉ ['"', '[', ']', '\x7b', 'n', 't', 'f'] := by decide
  rcases h with rfl | h
  · decide
  · have hrange : '0' ≤ c ∧ c ≤ '9' := by
      unfold isDigit digit? at h
      split at h
      · assumption
      · cases h
    have hlow : 48 ≤ c.toNat := hrange.1
    have hhigh : c.toNat ≤ 57 := hrange.2
    have hc := hdigits (c.toNat - 48) (by omega)
    rwa [Nat.add_sub_cancel' hlow, Char.ofNat_toNat] at hc

theorem IsValue.exists_cons {v : Value} {w : List Char} (h : IsValue v w) :
    ∃ c cs, w = c :: cs ∧ isBlankChar c = false ∧ c ≠ ']' := by
  cases h with
  | number hw =>
    obtain ⟨c, cs, rfl, hc⟩ := hw.exists_cons
    obtain ⟨hblank, hne⟩ := ne_of_numberHead hc
    refine ⟨c, cs, rfl, hblank, ?_⟩
    rintro rfl
    exact hne (by decide)
  | _ => exact ⟨_, _, rfl, rfl, by decide⟩

theorem readItems_skipBlank (cs : List Char) : readItems n (skipBlank cs) = readItems n cs := by
  cases n with
  | zero => rfl
  | succ n => rw [readItems, readItems, readValue_skipBlank]

/-- The first item of an array does not look like the end of the array. -/
theorem IsItems.skipBlank_append {vs : List Value} {body : List Char} (h : IsItems vs body)
    (rest : List Char) :
    ∃ c cs, skipBlank (body ++ rest) = c :: cs ∧ c ≠ ']' := by
  have htext : ∀ {v cs}, IsText v cs → ∀ rest, ∃ c tail, skipBlank (cs ++ rest) = c :: tail ∧ c ≠ ']' := by
    rintro _ _ ⟨hf, hv, -⟩ rest
    obtain ⟨c, cs, rfl, hblank, hc⟩ := hv.exists_cons
    rw [List.append_assoc, Json.skipBlank_append hf, List.cons_append, List.cons_append,
      skipBlank_of_not hblank]
    exact ⟨c, _, rfl, hc⟩
  cases h with
  | last hv => exact htext hv rest
  | more hv _ =>
    rw [List.append_assoc]
    exact htext hv _

/-- The first member of an object begins with a quote. -/
theorem IsMembers.skipBlank_append {ms : List (Option String × Value)} {body : List Char}
    (h : IsMembers ms body) (rest : List Char) : ∃ cs, skipBlank (body ++ rest) = '"' :: cs := by
  have hmember : ∀ {m cs}, IsMember m cs → ∀ rest, ∃ tail, skipBlank (cs ++ rest) = '"' :: tail := by
    rintro _ _ ⟨hf, -, -, -⟩ rest
    rw [List.append_assoc, Json.skipBlank_append hf, List.cons_append, skipBlank_of_not rfl]
    exact ⟨_, rfl⟩
  cases h with
  | last hm => exact hmember hm rest
  | more hm _ =>
    rw [List.append_assoc]
    exact hmember hm _

/-- An array is its items, if it has any. -/
theorem readValue_array {cs : List Char} (h : ∀ tail, skipBlank cs ≠ ']' :: tail) :
    readValue (n + 1) ('[' :: cs) = (readItems n cs).map fun p => (.array p.1, p.2) := by
  rw [readValue, skipBlank_of_not rfl, ← readItems_skipBlank]
  simp only

theorem readValue_emptyArray {cs tail : List Char} (h : skipBlank cs = ']' :: tail) :
    readValue (n + 1) ('[' :: cs) = some (.array [], tail) := by
  rw [readValue, skipBlank_of_not rfl]
  simp only [h]

theorem readValue_emptyObject {cs tail : List Char} (h : skipBlank cs = '\x7d' :: tail) :
    readValue (n + 1) ('\x7b' :: cs) = some (.object [], tail) := by
  rw [readValue, skipBlank_of_not rfl]
  simp only [h]

theorem Reads.value_succ (h : Reads n) {v : Value} {w rest : List Char} (hv : IsValue v w)
    (hn : w.length ≤ n + 1) (hrest : Stops rest) : readValue (n + 1) (w ++ rest) = some (v, rest) := by
  cases hv with
  | null | yes | no => rfl
  | number hw =>
    obtain ⟨c, cs, hcs, hc⟩ := hw.exists_cons
    obtain ⟨hblank, hne⟩ := ne_of_numberHead hc
    simp only [List.mem_cons, List.not_mem_nil, or_false, not_or] at hne
    -- no other value begins with a sign or a digit
    have hread : readValue (n + 1) (w ++ rest) = readNumber (w ++ rest) := by
      rw [readValue, hcs, List.cons_append, skipBlank_of_not hblank]
      split <;> simp_all
    rw [hread, readNumber_append hw hrest]
  | string hs =>
    rw [List.cons_append, List.append_assoc, readValue, skipBlank_of_not rfl]
    simp only [List.singleton_append, readString_eq_some_iff.mpr ⟨_, rfl, hs⟩, Option.map_some]
  | emptyArray hgap =>
    rw [List.cons_append, List.append_assoc, List.singleton_append]
    exact readValue_emptyArray (by rw [Json.skipBlank_append hgap, skipBlank_of_not rfl])
  | array hvs =>
    simp only [List.length_cons, List.length_append, List.length_nil] at hn
    rw [List.cons_append, List.append_assoc, List.singleton_append]
    obtain ⟨c, cs, hcs, hc⟩ := hvs.skipBlank_append (']' :: rest)
    rw [readValue_array (by simp [hcs, hc]), h.items rest hvs (by omega), Option.map_some]
  | emptyObject hgap =>
    rw [List.cons_append, List.append_assoc, List.singleton_append]
    exact readValue_emptyObject (by rw [Json.skipBlank_append hgap, skipBlank_of_not rfl])
  | object hms =>
    simp only [List.length_cons, List.length_append, List.length_nil] at hn
    rw [List.cons_append, List.append_assoc, List.singleton_append]
    obtain ⟨cs, hcs⟩ := hms.skipBlank_append ('\x7d' :: rest)
    rw [readValue_object _ (by simp [hcs]), h.members rest hms (by omega), Option.map_some]

theorem Reads.items_succ (h : Reads n) {vs : List Value} {body : List Char} (rest : List Char)
    (hvs : IsItems vs body) (hn : body.length < n + 1) :
    readItems (n + 1) (body ++ ']' :: rest) = some (vs, rest) := by
  cases hvs with
  | last hv =>
    obtain ⟨mid, hread, hmid⟩ := h.text hv (by omega) (c := ']') (by decide) rest
    rw [readItems, hread]
    simp only [Option.bind_eq_bind, Option.bind_some, hmid]
  | more hv hvs =>
    simp only [List.length_append, List.length_cons] at hn
    rw [List.append_assoc, List.cons_append]
    obtain ⟨mid, hread, hmid⟩ := h.text hv (by omega) (c := ',') (by decide) _
    rw [readItems, hread]
    simp only [Option.bind_eq_bind, Option.bind_some, hmid, h.items rest hvs (by omega),
      Option.map_some]

/-- **A member is read**, with those behind it or as the last one. -/
theorem Reads.member (h : Reads n) {m : Option String × Value} {cs : List Char} (hm : IsMember m cs)
    (hn : cs.length ≤ n) (rest : List Char) :
    readMembers (n + 1) (cs ++ ',' :: rest) =
        ((readMembers n rest).map fun p => (m :: p.1, p.2)) ∧
      readMembers (n + 1) (cs ++ '\x7d' :: rest) = some ([m], rest) := by
  obtain ⟨hf, hkey, hgap, hv⟩ := hm
  simp only [List.length_append, List.length_cons] at hn
  obtain ⟨mid, hread, hmid⟩ := h.text hv (by omega) (c := ',') (by decide) rest
  obtain ⟨mid', hread', hmid'⟩ := h.text hv (by omega) (c := '\x7d') (by decide) rest
  constructor
  all_goals
    rw [List.append_assoc, readMembers, skipBlank_append hf, List.cons_append, skipBlank_of_not rfl]
    simp only [List.append_assoc, List.cons_append, readString_eq_some_iff.mpr ⟨_, rfl, hkey⟩,
      Option.bind_eq_bind, Option.bind_some, skipBlank_append hgap, skipBlank_of_not (c := ':') rfl,
      hread, hmid, hread', hmid']

theorem Reads.members_succ (h : Reads n) {ms : List (Option String × Value)} {body : List Char}
    (rest : List Char) (hms : IsMembers ms body) (hn : body.length < n + 1) :
    readMembers (n + 1) (body ++ '\x7d' :: rest) = some (ms, rest) := by
  cases hms with
  | last hm => exact (h.member hm (by omega) rest).2
  | more hm hms =>
    simp only [List.length_append, List.length_cons] at hn
    rw [List.append_assoc, List.cons_append, (h.member hm (by omega) _).1,
      h.members rest hms (by omega), Option.map_some]

/-- **Values are read** with as much fuel as they have characters. -/
theorem reads : ∀ n, Reads n
  | 0 =>
    { value := fun hv hn _ => by
        obtain ⟨c, cs, rfl, -⟩ := hv.exists_cons
        simp at hn
      items := fun _ _ hn => absurd hn (Nat.not_lt_zero _)
      members := fun _ _ hn => absurd hn (Nat.not_lt_zero _) }
  | n + 1 =>
    { value := (reads n).value_succ
      items := (reads n).items_succ
      members := (reads n).members_succ }

/-! ## What is read -/

/-- **What is read** with so much fuel is a value, or stands between the brackets of one. -/
structure Writes (n : Nat) : Prop where
  value : ∀ {cs v rest}, readValue n cs = some (v, rest) →
    ∃ front w, cs = front ++ (w ++ rest) ∧ AllBlankChars front ∧ IsValue v w
  items : ∀ {cs vs rest}, readItems n cs = some (vs, rest) →
    ∃ body, cs = body ++ ']' :: rest ∧ IsItems vs body
  members : ∀ {cs ms rest}, readMembers n cs = some (ms, rest) →
    ∃ body, cs = body ++ '\x7d' :: rest ∧ IsMembers ms body

theorem exists_skipBlank (cs : List Char) :
    ∃ front, AllBlankChars front ∧ cs = front ++ skipBlank cs :=
  ⟨cs.takeWhile isBlankChar, List.all_takeWhile, List.takeWhile_append_dropWhile.symm⟩

theorem of_readWord {word cs rest : List Char} {v v' : Value}
    (h : readWord word v cs = some (v', rest)) : cs = word ++ rest ∧ v' = v := by
  unfold readWord at h
  split at h
  · next hword =>
    obtain ⟨tail, rfl⟩ := List.isPrefixOf_iff_prefix.mp hword
    cases h
    exact ⟨by rw [List.drop_left], rfl⟩
  · cases h

/-- A value in front of a comma or a bracket is a text. -/
theorem Writes.text (h : Writes n) {cs mid rest : List Char} {v : Value} {c : Char}
    (hread : readValue n cs = some (v, mid)) (hmid : skipBlank mid = c :: rest) :
    ∃ w, cs = w ++ c :: rest ∧ IsText v w := by
  obtain ⟨front, w, rfl, hf, hv⟩ := h.value hread
  obtain ⟨back, hb, hback⟩ := exists_skipBlank mid
  rw [hmid] at hback
  exact ⟨front ++ (w ++ back), by simp [hback], .mk hf hv hb⟩

/-- **What stands behind an opening bracket**: a gap and the closing one, or what is read between them. -/
theorem exists_of_bracket {α : Type} {opening close : Char} {nothing v : Value} {something : α → Value}
    {read : List Char → Option (α × List Char)} {IsBody : α → List Char → Prop} {cs rest : List Char}
    (hclosed : ∀ tail, skipBlank cs = close :: tail →
      readValue (n + 1) (opening :: cs) = some (nothing, tail))
    (hopen : (∀ tail, skipBlank cs ≠ close :: tail) →
      readValue (n + 1) (opening :: cs) = (read cs).map fun p => (something p.1, p.2))
    (hbody : ∀ {a rest}, read cs = some (a, rest) → ∃ body, cs = body ++ close :: rest ∧ IsBody a body)
    (hread : readValue (n + 1) (opening :: cs) = some (v, rest)) :
    (∃ gap, AllBlankChars gap ∧ v = nothing ∧ cs = gap ++ close :: rest) ∨
      ∃ a body, IsBody a body ∧ v = something a ∧ cs = body ++ close :: rest := by
  by_cases hclose : ∃ tail, skipBlank cs = close :: tail
  · obtain ⟨tail, htail⟩ := hclose
    obtain ⟨gap, hgap, hcs⟩ := exists_skipBlank cs
    rw [hclosed tail htail] at hread
    cases hread
    exact Or.inl ⟨gap, hgap, rfl, htail ▸ hcs⟩
  · rw [hopen (not_exists.mp hclose)] at hread
    obtain ⟨⟨a, _⟩, ha, ⟨⟩⟩ := Option.map_eq_some_iff.mp hread
    obtain ⟨body, hcs, hbody⟩ := hbody ha
    exact Or.inr ⟨a, body, hbody, rfl, hcs⟩

theorem Writes.array_succ (h : Writes n) {cs rest : List Char} {v : Value}
    (hread : readValue (n + 1) ('[' :: cs) = some (v, rest)) :
    ∃ w, '[' :: cs = w ++ rest ∧ IsValue v w := by
  rcases exists_of_bracket (fun _ => readValue_emptyArray) readValue_array h.items hread with
    ⟨gap, hgap, rfl, rfl⟩ | ⟨vs, body, hbody, rfl, rfl⟩
  · exact ⟨_, by simp, .emptyArray hgap⟩
  · exact ⟨_, by simp, .array hbody⟩

theorem Writes.object_succ (h : Writes n) {cs rest : List Char} {v : Value}
    (hread : readValue (n + 1) ('\x7b' :: cs) = some (v, rest)) :
    ∃ w, '\x7b' :: cs = w ++ rest ∧ IsValue v w := by
  rcases exists_of_bracket (fun _ => readValue_emptyObject) (readValue_object n) h.members hread with
    ⟨gap, hgap, rfl, rfl⟩ | ⟨ms, body, hbody, rfl, rfl⟩
  · exact ⟨_, by simp, .emptyObject hgap⟩
  · exact ⟨_, by simp, .object hbody⟩

theorem Writes.value_succ (h : Writes n) {cs rest : List Char} {v : Value}
    (hread : readValue (n + 1) cs = some (v, rest)) :
    ∃ front w, cs = front ++ (w ++ rest) ∧ AllBlankChars front ∧ IsValue v w := by
  obtain ⟨front, hf, hcs⟩ := exists_skipBlank cs
  suffices ∃ w, skipBlank cs = w ++ rest ∧ IsValue v w by
    obtain ⟨w, hw, hv⟩ := this
    exact ⟨front, w, hw ▸ hcs, hf, hv⟩
  have hskip := skipBlank_skipBlank cs
  rw [← readValue_skipBlank] at hread
  generalize skipBlank cs = tail at hread hskip
  have hread' := hread
  rw [readValue, hskip] at hread'
  split at hread'
  · obtain ⟨⟨s, _⟩, hs, ⟨⟩⟩ := Option.map_eq_some_iff.mp hread'
    obtain ⟨body, rfl, hbody⟩ := readString_eq_some_iff.mp hs
    exact ⟨_, by simp, .string hbody⟩
  · exact h.array_succ hread
  · exact h.object_succ hread
  · obtain ⟨rfl, rfl⟩ := of_readWord hread'
    exact ⟨_, rfl, .null⟩
  · obtain ⟨rfl, rfl⟩ := of_readWord hread'
    exact ⟨_, rfl, .yes⟩
  · obtain ⟨rfl, rfl⟩ := of_readWord hread'
    exact ⟨_, rfl, .no⟩
  · obtain ⟨w, rfl, rfl, hw⟩ := of_readNumber hread'
    exact ⟨w, rfl, .number hw⟩

theorem Writes.items_succ (h : Writes n) {cs rest : List Char} {vs : List Value}
    (hread : readItems (n + 1) cs = some (vs, rest)) :
    ∃ body, cs = body ++ ']' :: rest ∧ IsItems vs body := by
  rw [readItems] at hread
  obtain ⟨⟨v, mid⟩, hv, hmore⟩ := Option.bind_eq_some_iff.mp hread
  dsimp only at hmore
  split at hmore
  · next tail hmid =>
    obtain ⟨w, rfl, hw⟩ := h.text hv hmid
    obtain ⟨⟨us, _⟩, hus, ⟨⟩⟩ := Option.map_eq_some_iff.mp hmore
    obtain ⟨body, rfl, hbody⟩ := h.items hus
    exact ⟨_, by simp, .more hw hbody⟩
  · next tail hmid =>
    obtain ⟨w, rfl, hw⟩ := h.text hv hmid
    cases hmore
    exact ⟨w, rfl, .last hw⟩
  · cases hmore

theorem Writes.members_succ (h : Writes n) {cs rest : List Char} {ms : List (Option String × Value)}
    (hread : readMembers (n + 1) cs = some (ms, rest)) :
    ∃ body, cs = body ++ '\x7d' :: rest ∧ IsMembers ms body := by
  obtain ⟨front, hf, hcs⟩ := exists_skipBlank cs
  rw [readMembers] at hread
  split at hread
  · next tail htail =>
    obtain ⟨⟨key, behind⟩, hkey, hvalue⟩ := Option.bind_eq_some_iff.mp hread
    obtain ⟨name, rfl, hname⟩ := readString_eq_some_iff.mp hkey
    obtain ⟨gap, hgap, hbehind⟩ := exists_skipBlank behind
    dsimp only at hvalue
    split at hvalue
    · next tail hcolon =>
      obtain ⟨⟨v, mid⟩, hv, hmore⟩ := Option.bind_eq_some_iff.mp hvalue
      rw [htail, hbehind, hcolon] at hcs
      dsimp only at hmore
      split at hmore
      · next tail hmid =>
        obtain ⟨w, rfl, hw⟩ := h.text hv hmid
        obtain ⟨⟨us, _⟩, hus, ⟨⟩⟩ := Option.map_eq_some_iff.mp hmore
        obtain ⟨body, rfl, hbody⟩ := h.members hus
        exact ⟨_, by rw [hcs]; simp, .more (.mk hf hname hgap hw) hbody⟩
      · next tail hmid =>
        obtain ⟨w, rfl, hw⟩ := h.text hv hmid
        cases hmore
        exact ⟨_, by rw [hcs]; simp, .last (.mk hf hname hgap hw)⟩
      · cases hmore
    · cases hvalue
  · cases hread

/-- **What is read** has been written. -/
theorem writes : ∀ n, Writes n
  | 0 => { value := nofun, items := nofun, members := nofun }
  | n + 1 =>
    { value := (writes n).value_succ
      items := (writes n).items_succ
      members := (writes n).members_succ }

/-- **The texts that are read** are those of the grammar, and they are read as the values they write. -/
theorem read?_eq_some_iff {cs : List Char} {v : Value} : read? cs = some v ↔ IsText v cs := by
  rw [read?, Option.bind_eq_some_iff]
  constructor
  · rintro ⟨⟨u, back⟩, hread, hback⟩
    obtain ⟨front, w, rfl, hf, hv⟩ := (writes _).value hread
    split at hback
    · next hblank =>
      cases hback
      exact .mk hf hv (List.all_eq_true.mpr (List.dropWhile_eq_nil_iff.mp hblank))
    · cases hback
  · rintro ⟨hf, hv, hb⟩
    rename_i front w back
    refine ⟨(v, back), ?_, ?_⟩
    · rw [readValue_append_blank hf]
      refine (reads _).value hv ?_ ?_
      · simp only [List.length_append]
        omega
      · intro c hc
        exact Or.inl (List.all_eq_true.mp hb c (List.mem_of_head? hc))
    · have hblank : skipBlank back = [] := List.dropWhile_eq_nil_iff.mpr (List.all_eq_true.mp hb)
      rw [if_pos hblank]

end PostingRules.Json
