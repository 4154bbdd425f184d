import PostingRules.Json.Reader
import Mathlib.Data.List.DropRight

/-!
# Reading what was written as JSON

* `pieceOf`: the piece of a written string that is read for a character;
* `readPieces_escaped`, `joinPieces_pieces`: the pieces of a written string, and their text;
* **`readString_quote`**: a written string is read back;
* `readValue_quote`, `readValue_object`: a string as a value, and an object;
* **`readMembers_more`, `readMembers_last`**: the members of an object that are strings.
-/

namespace PostingRules.Json

open PostingRules.Text

/-! ## Strings -/

/-- The piece that is read where a character was written: the controls without a letter of their own
are written by their numbers. -/
def pieceOf (c : Char) : Piece :=
  if c.toNat < 32 ∧ c ∉ ['\x08', '\t', '\n', '\x0c', '\r'] then .unit c.toNat else .char c

theorem hexDigit?_hexChar : ∀ n < 16, hexDigit? (hexChar n) = some n := by decide

theorem hex4?_control {n : Nat} (h : n < 32) :
    hex4? '0' '0' (hexChar (n / 16)) (hexChar (n % 16)) = some n := by
  have hzero : hexDigit? '0' = some 0 := rfl
  rw [hex4?, hzero, hexDigit?_hexChar _ (by omega), hexDigit?_hexChar _ (by omega)]
  simp only [Option.bind_eq_bind, Option.bind_some, Option.some.injEq]
  omega

/-- **A written character** is read as its piece. -/
theorem readPieces_escapeChar (c : Char) (rest : List Char) :
    readPieces (escapeChar c ++ rest) =
      (readPieces rest).map fun p => (pieceOf c :: p.1, p.2) := by
  unfold escapeChar
  split
  case h_8 _ hquote hslash hb ht hn hf hr =>
    split
    · next hc =>
      have hpiece : pieceOf c = .unit c.toNat := if_pos ⟨hc, by simp_all⟩
      rw [hpiece]
      simp [readPieces, hex4?_control hc]
    · next hc =>
      have hpiece : pieceOf c = .char c := if_neg fun h => hc h.1
      rw [hpiece, List.singleton_append, readPieces]
      · rw [if_neg (not_or.mpr ⟨hslash, hc⟩)]
      all_goals simp_all
  all_goals rfl

theorem readPieces_escaped (cs rest : List Char) :
    readPieces (cs.flatMap escapeChar ++ '"' :: rest) = some (cs.map pieceOf, rest) := by
  induction cs with
  | nil => rfl
  | cons c cs ih =>
    rw [List.flatMap_cons, List.append_assoc, readPieces_escapeChar, ih]
    rfl

theorem joinPieces_unit {n : Nat} (h : n < 0xD800) (ps : List Piece) :
    joinPieces (.unit n :: ps) = (joinPieces ps).map (Char.ofNat n :: ·) := by
  have hhigh : isHigh n = false := by simp [isHigh]; omega
  have hlow : isLow n = false := by simp [isLow]; omega
  rcases ps with _ | ⟨_ | _, ps⟩ <;> simp [joinPieces, hhigh, hlow]

/-- **The pieces of a text** make the text. -/
theorem joinPieces_pieces (cs : List Char) : joinPieces (cs.map pieceOf) = some cs := by
  induction cs with
  | nil => rfl
  | cons c cs ih =>
    rw [List.map_cons, pieceOf]
    split
    · next hc => rw [joinPieces_unit (by omega), ih, Option.map_some, Char.ofNat_toNat]
    · rw [joinPieces, ih, Option.map_some]

/-- **A written string** is read back, whatever stands behind it. -/
theorem readString_quote (s : String) (rest : List Char) :
    readString (s.toList.flatMap escapeChar ++ '"' :: rest) = some (some s, rest) := by
  rw [readString, readPieces_escaped, Option.map_some, joinPieces_pieces, Option.map_some,
    String.ofList_toList]

/-! ## Values and members -/

theorem quote_append (cs rest : List Char) :
    quote cs ++ rest = '"' :: (cs.flatMap escapeChar ++ '"' :: rest) := by
  rw [quote, List.cons_append, List.cons_append, List.append_assoc, List.singleton_append]

theorem skipBlank_of_not {c : Char} (h : isBlankChar c = false) (rest : List Char) :
    skipBlank (c :: rest) = c :: rest :=
  List.dropWhile_cons_of_neg (by simp [h])

theorem skipBlank_skipBlank (cs : List Char) : skipBlank (skipBlank cs) = skipBlank cs :=
  List.dropWhile_idempotent isBlankChar cs

/-- Characters that are skipped between the parts of a value. -/
def AllBlankChars (cs : List Char) : Prop := cs.all isBlankChar = true

theorem allBlankChars_blank : AllBlankChars [' '] := rfl

theorem skipBlank_append {front : List Char} (h : AllBlankChars front) (rest : List Char) :
    skipBlank (front ++ rest) = skipBlank rest :=
  List.dropWhile_append_of_pos (List.all_eq_true.mp h)

variable {front back : List Char} (n : Nat) (key value : String)

theorem readValue_quote (hf : AllBlankChars front) (rest : List Char) :
    readValue (n + 1) (front ++ (quote value.toList ++ rest)) =
      some (.string (some value), rest) := by
  rw [readValue, skipBlank_append hf, quote_append, skipBlank_of_not rfl]
  simp only [readString_quote, Option.map_some]

theorem readMembers_skipBlank (cs : List Char) :
    readMembers n (skipBlank cs) = readMembers n cs := by
  cases n with
  | zero => rfl
  | succ n => rw [readMembers, readMembers, skipBlank_skipBlank]

/-- An object is its members, if it has any. -/
theorem readValue_object {cs : List Char} (h : ∀ tail, skipBlank cs ≠ '\x7d' :: tail) :
    readValue (n + 1) ('\x7b' :: cs) = (readMembers n cs).map fun p => (.object p.1, p.2) := by
  rw [readValue, skipBlank_of_not rfl, ← readMembers_skipBlank]
  simp only

/-- **A member with others behind it**, between blanks. -/
theorem readMembers_more (hf : AllBlankChars front) (rest : List Char) :
    readMembers (n + 2)
        (front ++ (quote key.toList ++ ':' :: ' ' :: (quote value.toList ++ ',' :: rest))) =
      (readMembers (n + 1) rest).map fun p => ((some key, .string (some value)) :: p.1, p.2) := by
  have hvalue : readValue (n + 1) (' ' :: (quote value.toList ++ ',' :: rest)) =
      some (.string (some value), ',' :: rest) :=
    readValue_quote n value allBlankChars_blank _
  rw [readMembers, skipBlank_append hf, quote_append key.toList, skipBlank_of_not rfl]
  simp only [readString_quote, Option.bind_eq_bind, Option.bind_some,
    skipBlank_of_not (c := ':') rfl, hvalue, skipBlank_of_not (c := ',') rfl]

/-- **The last member** of an object. -/
theorem readMembers_last (hf : AllBlankChars front) (hb : AllBlankChars back) (rest : List Char) :
    readMembers (n + 2) (front ++ (quote key.toList ++ ':' :: ' ' ::
        (quote value.toList ++ (back ++ '\x7d' :: rest)))) =
      some ([(some key, .string (some value))], rest) := by
  have hvalue : readValue (n + 1) (' ' :: (quote value.toList ++ (back ++ '\x7d' :: rest))) =
      some (.string (some value), back ++ '\x7d' :: rest) :=
    readValue_quote n value allBlankChars_blank _
  rw [readMembers, skipBlank_append hf, quote_append key.toList, skipBlank_of_not rfl]
  simp only [readString_quote, Option.bind_eq_bind, Option.bind_some,
    skipBlank_of_not (c := ':') rfl, hvalue, skipBlank_append hb,
    skipBlank_of_not (c := '\x7d') rfl]

end PostingRules.Json
