import PostingRules.Decimal.Reader
import PostingRules.Proofs.Text.Digits

/-!
# The alphabet of decimal numbers

* `IsNumberChar`: digits, signs, the point, the underscore and the marks of an exponent;
* `isTail_or_point_of_scan`, `isNumberChar_of_readPlain`, `isNumberChar_of_readScientific`: the
  characters that the readers take;
* **`isNumberChar_of_read`**: a text with any other character is no number.
-/

namespace PostingRules.Decimal

open PostingRules.Text

/-- The character may stand in a number. -/
def IsNumberChar (c : Char) : Prop := c.isDigit = true ∨ c ∈ ['.', '_', '+', '-', 'e', 'E']

instance (c : Char) : Decidable (IsNumberChar c) := inferInstanceAs (Decidable (_ ∨ _))

theorem IsNumberChar.isBlank_eq_false {c : Char} (h : IsNumberChar c) : isBlank c = false := by
  rcases h with h | h
  · exact isBlank_eq_false_of_isDigit h
  · have hall : ['.', '_', '+', '-', 'e', 'E'].all (!isBlank ·) = true := by decide
    simpa using List.all_eq_true.mp hall c h

theorem isNumberChar_of_isTail {c : Char} (h : isTail c = true) : IsNumberChar c := by
  rw [isTail, Bool.or_eq_true, decide_eq_true_eq, isDigit, Option.isSome_iff_exists] at h
  rcases h with ⟨n, hn⟩ | rfl
  · exact .inl (isDigit_of_digit? hn)
  · decide

variable {cs : List Char} {d : Decimal}

/-- Behind its sign a number without an exponent has no further sign. -/
theorem isTail_or_point_of_scan {s : Scan} {p : Nat × Nat} (h : scan s cs = some p) :
    ∀ c ∈ cs, isTail c = true ∨ c = '.' := by
  induction cs generalizing s with
  | nil => nofun
  | cons c rest ih =>
    rw [List.forall_mem_cons]
    rw [scan] at h
    split at h
    · next hpoint =>
      split at h
      · cases h
      · exact ⟨.inr hpoint, ih h⟩
    · split at h
      · next hline =>
        split at h
        · exact ⟨.inl (by simp [isTail, hline]), ih h⟩
        · cases h
      · split at h
        · cases h
        · next n hn =>
          have hc : isTail c = true := by simp [isTail, isDigit, hn]
          refine ⟨.inl hc, ?_⟩
          dsimp only at h
          split at h
          · split at h
            · exact ih h
            · split at h
              · next hrest =>
                -- the digit has no room, and the rest is looked at without being taken in
                exact fun x hx => .inl (List.all_eq_true.mp hrest x hx)
              · cases h
          · split at h
            · exact ih h
            · cases h

theorem isNumberChar_of_readUnsigned {negative : Bool} (h : readUnsigned negative cs = some d) :
    ∀ c ∈ cs, IsNumberChar c := by
  obtain ⟨p, hp, -⟩ := Option.bind_eq_some_iff.mp h
  intro c hc
  rcases isTail_or_point_of_scan hp c hc with hc | rfl
  · exact isNumberChar_of_isTail hc
  · decide

theorem isNumberChar_of_readPlain (h : readPlain cs = some d) : ∀ c ∈ cs, IsNumberChar c := by
  unfold readPlain at h
  split at h
  · exact List.forall_mem_cons.mpr ⟨by decide, isNumberChar_of_readUnsigned h⟩
  · exact List.forall_mem_cons.mpr ⟨by decide, isNumberChar_of_readUnsigned h⟩
  · exact isNumberChar_of_readUnsigned h

theorem isNumberChar_of_readNat {bound n : Nat} (h : (readNat bound cs).toOption = some n) :
    ∀ c ∈ cs, IsNumberChar c := by
  have hok : readNat bound cs = .ok n := by
    cases hcs : readNat bound cs with
    | error e => rw [hcs] at h; cases h
    | ok m => rw [hcs] at h; cases h; rfl
  obtain ⟨⟨ds, rfl | rfl, -, hdigits, -⟩, -⟩ := readNat_eq_ok_iff.mp hok
  · exact fun c hc => .inl (hdigits c hc)
  · exact List.forall_mem_cons.mpr ⟨by decide, fun c hc => .inl (hdigits c hc)⟩

theorem isNumberChar_of_readScientific (h : readScientific cs = some d) :
    ∀ c ∈ cs, IsNumberChar c := by
  unfold readScientific at h
  split at h
  · cases h
  next mark exponent hdrop =>
  obtain ⟨base, hbase, hexponent⟩ := Option.bind_eq_some_iff.mp h
  have hmark : IsNumberChar mark := by
    have hhead := List.head?_dropWhile_not (!isExponentMark ·) cs
    rw [hdrop] at hhead
    have hmark : isExponentMark mark = true := by simpa using hhead
    rw [isExponentMark, Bool.or_eq_true, decide_eq_true_eq, decide_eq_true_eq] at hmark
    rcases hmark with rfl | rfl <;> decide
  have hbehind : ∀ c ∈ exponent, IsNumberChar c := by
    split at hexponent
    · obtain ⟨n, hn, -⟩ := Option.bind_eq_some_iff.mp hexponent
      exact List.forall_mem_cons.mpr ⟨by decide, isNumberChar_of_readNat hn⟩
    · obtain ⟨n, hn, -⟩ := Option.bind_eq_some_iff.mp hexponent
      exact isNumberChar_of_readNat hn
  rw [← List.takeWhile_append_dropWhile (p := (!isExponentMark ·)) (l := cs), hdrop]
  exact List.forall_mem_append.mpr ⟨isNumberChar_of_readPlain hbase,
    List.forall_mem_cons.mpr ⟨hmark, hbehind⟩⟩

/-- **A text that is a number** has only characters of numbers. -/
theorem isNumberChar_of_read (h : read cs = some d) : ∀ c ∈ cs, IsNumberChar c := by
  rw [read, Option.or_eq_some_iff] at h
  rcases h with h | ⟨-, h⟩
  · exact isNumberChar_of_readPlain h
  · exact isNumberChar_of_readScientific h

theorem ne_nil_of_read (h : read cs = some d) : cs ≠ [] := by
  rintro rfl
  cases h

end PostingRules.Decimal
