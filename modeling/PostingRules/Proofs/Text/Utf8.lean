import PostingRules.Text.Utf8
import Mathlib.Tactic.Common

/-!
# What UTF-8 is well formed

* `Owed.Takes`: the bytes that complete a character begun;
* `utf8EncodeChar_of_takes`, `takes_utf8EncodeChar`: a first byte and the bytes that it owes are those
  of one character;
* `IllFormed`: bytes that begin with those of no character;
* **`decode_eq_ok_iff`, `decode_eq_error_iff`**: exactly the bytes of texts are read, and reading
  stops where they end.
-/

namespace PostingRules.Text.Utf8

/-- The bytes complete a character begun. -/
inductive Owed.Takes : Owed → List UInt8 → Char → Prop
  | done {o} : o.count = 0 → Takes o [] (Char.ofNat o.bits)
  | byte {o o' b w c} : o.count ≠ 0 → o.step? b = some o' → Takes o' w c → Takes o (b :: w) c

/-! ## One character -/

theorem step?_eq_some_iff {o o' : Owed} {b : UInt8} : o.step? b = some o' ↔
    o.low.toNat ≤ b.toNat ∧ b.toNat ≤ o.high.toNat ∧
      o' = ⟨o.count - 1, 0x80, 0xBF, 64 * o.bits + (b.toNat - 0x80)⟩ := by
  unfold Owed.step?
  split
  · next h =>
    rw [UInt8.le_iff_toNat_le, UInt8.le_iff_toNat_le] at h
    simp [h, eq_comm]
  · next h =>
    refine iff_of_false nofun ?_
    rintro ⟨hl, hh, -⟩
    exact h ⟨UInt8.le_iff_toNat_le.mpr hl, UInt8.le_iff_toNat_le.mpr hh⟩

theorem takes_zero_iff {l h : UInt8} {bits : Nat} {w : List UInt8} {c : Char} :
    Owed.Takes ⟨0, l, h, bits⟩ w c ↔ w = [] ∧ c = Char.ofNat bits := by
  constructor
  · intro ht
    cases ht with
    | done => exact ⟨rfl, rfl⟩
    | byte hne => exact absurd rfl hne
  · rintro ⟨rfl, rfl⟩
    exact .done rfl

theorem takes_succ_iff {n : Nat} {l h : UInt8} {bits : Nat} {w : List UInt8} {c : Char} :
    Owed.Takes ⟨n + 1, l, h, bits⟩ w c ↔
      ∃ b w', w = b :: w' ∧ l.toNat ≤ b.toNat ∧ b.toNat ≤ h.toNat ∧
        Owed.Takes ⟨n, 0x80, 0xBF, 64 * bits + (b.toNat - 0x80)⟩ w' c := by
  constructor
  · intro ht
    cases ht with
    | done hz => cases hz
    | @byte _ o' b w _ _ hs ht =>
      obtain ⟨hl, hh, rfl⟩ := step?_eq_some_iff.mp hs
      exact ⟨b, w, rfl, hl, hh, ht⟩
  · rintro ⟨b, w', rfl, hl, hh, ht⟩
    exact .byte (Nat.succ_ne_zero n) (step?_eq_some_iff.mpr ⟨hl, hh, rfl⟩) ht

/-- What each first byte owes. -/
theorem first?_eq_some_iff {b : UInt8} {o : Owed} : first? b = some o ↔
    (b.toNat < 0x80 ∧ o = ⟨0, 0x80, 0xBF, b.toNat⟩) ∨
    (0xC2 ≤ b.toNat ∧ b.toNat < 0xE0 ∧ o = ⟨1, 0x80, 0xBF, b.toNat - 0xC0⟩) ∨
    (0xE0 ≤ b.toNat ∧ b.toNat < 0xF0 ∧ o = ⟨2, if b.toNat = 0xE0 then 0xA0 else 0x80,
      if b.toNat = 0xED then 0x9F else 0xBF, b.toNat - 0xE0⟩) ∨
    (0xF0 ≤ b.toNat ∧ b.toNat ≤ 0xF4 ∧ o = ⟨3, if b.toNat = 0xF0 then 0x90 else 0x80,
      if b.toNat = 0xF4 then 0x8F else 0xBF, b.toNat - 0xF0⟩) := by
  have hall : ∀ n : Fin 256, first? (UInt8.ofNat n) =
      if n.val < 0x80 then some ⟨0, 0x80, 0xBF, n⟩
      else if n.val < 0xC2 then none
      else if n.val < 0xE0 then some ⟨1, 0x80, 0xBF, n - 0xC0⟩
      else if n.val < 0xF0 then some ⟨2, if n.val = 0xE0 then 0xA0 else 0x80,
        if n.val = 0xED then 0x9F else 0xBF, n - 0xE0⟩
      else if n.val ≤ 0xF4 then some ⟨3, if n.val = 0xF0 then 0x90 else 0x80,
        if n.val = 0xF4 then 0x8F else 0xBF, n - 0xF0⟩
      else none := by decide +kernel
  have hb := hall ⟨b.toNat, b.toNat_lt⟩
  rw [UInt8.ofNat_toNat] at hb
  rw [hb]
  by_cases h0 : b.toNat < 0x80
  · simp [h0, show ¬ 0xC2 ≤ b.toNat by omega, show ¬ 0xE0 ≤ b.toNat by omega,
      show ¬ 0xF0 ≤ b.toNat by omega, eq_comm]
  by_cases h1 : b.toNat < 0xC2
  · simp [h0, h1, show ¬ 0xC2 ≤ b.toNat by omega, show ¬ 0xE0 ≤ b.toNat by omega,
      show ¬ 0xF0 ≤ b.toNat by omega]
  by_cases h2 : b.toNat < 0xE0
  · simp [h0, h1, h2, show 0xC2 ≤ b.toNat by omega, show ¬ 0xE0 ≤ b.toNat by omega,
      show ¬ 0xF0 ≤ b.toNat by omega, eq_comm]
  by_cases h3 : b.toNat < 0xF0
  · simp [h0, h1, h2, h3, show 0xE0 ≤ b.toNat by omega, show ¬ 0xF0 ≤ b.toNat by omega, eq_comm]
  · simp [h0, h1, h2, h3, show 0xF0 ≤ b.toNat by omega, eq_comm]

theorem toNat_ofNat_of_valid {n : Nat} (h : n < 0xD800 ∨ 0xDFFF < n ∧ n < 0x110000) :
    (Char.ofNat n).val.toNat = n := by
  have hv : n.isValidChar := h
  rw [Char.ofNat, dif_pos hv]
  rfl

theorem ofNat_eq_iff {n : Nat} {b : UInt8} : UInt8.ofNat n = b ↔ n % 256 = b.toNat := by
  rw [← UInt8.toNat_inj, UInt8.toNat_ofNat']

/-- **A first byte and the bytes that it owes** are the bytes of a character. -/
theorem utf8EncodeChar_of_takes {b : UInt8} {w : List UInt8} {o : Owed} {c : Char}
    (hb : first? b = some o) (hw : o.Takes w c) : String.utf8EncodeChar c = b :: w := by
  rcases first?_eq_some_iff.mp hb with ⟨h, rfl⟩ | ⟨hl, hh, rfl⟩ | ⟨hl, hh, rfl⟩ | ⟨hl, hh, rfl⟩
  · obtain ⟨rfl, hc⟩ := takes_zero_iff.mp hw
    have hv := toNat_ofNat_of_valid (n := b.toNat) (by omega)
    rw [hc, String.utf8EncodeChar, hv, if_pos (by omega), UInt8.ofNat_toNat]
  · obtain ⟨b₁, w₁, rfl, hl₁, hh₁, hw⟩ := takes_succ_iff.mp hw
    obtain ⟨rfl, hc⟩ := takes_zero_iff.mp hw
    simp only [UInt8.reduceToNat] at hl₁ hh₁
    have hv := toNat_ofNat_of_valid (n := 64 * (b.toNat - 0xC0) + (b₁.toNat - 0x80)) (by omega)
    rw [hc, String.utf8EncodeChar, hv, if_neg (by omega), if_pos (by omega)]
    simp only [List.cons.injEq, ofNat_eq_iff, and_true]
    omega
  · obtain ⟨b₁, w₁, rfl, hl₁, hh₁, hw⟩ := takes_succ_iff.mp hw
    obtain ⟨b₂, w₂, rfl, hl₂, hh₂, hw⟩ := takes_succ_iff.mp hw
    obtain ⟨rfl, hc⟩ := takes_zero_iff.mp hw
    simp only [UInt8.reduceToNat, apply_ite UInt8.toNat] at hl₁ hh₁ hl₂ hh₂
    have hlow : 0x80 ≤ b₁.toNat ∧ (b.toNat = 0xE0 → 0xA0 ≤ b₁.toNat) := by
      split at hl₁ <;> omega
    have hhigh : b₁.toNat ≤ 0xBF ∧ (b.toNat = 0xED → b₁.toNat ≤ 0x9F) := by
      split at hh₁ <;> omega
    clear hl₁ hh₁
    have hv := toNat_ofNat_of_valid
      (n := 64 * (64 * (b.toNat - 0xE0) + (b₁.toNat - 0x80)) + (b₂.toNat - 0x80)) (by omega)
    rw [hc, String.utf8EncodeChar, hv, if_neg (by omega), if_neg (by omega), if_pos (by omega)]
    simp only [List.cons.injEq, ofNat_eq_iff, and_true]
    omega
  · obtain ⟨b₁, w₁, rfl, hl₁, hh₁, hw⟩ := takes_succ_iff.mp hw
    obtain ⟨b₂, w₂, rfl, hl₂, hh₂, hw⟩ := takes_succ_iff.mp hw
    obtain ⟨b₃, w₃, rfl, hl₃, hh₃, hw⟩ := takes_succ_iff.mp hw
    obtain ⟨rfl, hc⟩ := takes_zero_iff.mp hw
    simp only [UInt8.reduceToNat, apply_ite UInt8.toNat] at hl₁ hh₁ hl₂ hh₂ hl₃ hh₃
    have hlow : 0x80 ≤ b₁.toNat ∧ (b.toNat = 0xF0 → 0x90 ≤ b₁.toNat) := by
      split at hl₁ <;> omega
    have hhigh : b₁.toNat ≤ 0xBF ∧ (b.toNat = 0xF4 → b₁.toNat ≤ 0x8F) := by
      split at hh₁ <;> omega
    clear hl₁ hh₁
    have hv := toNat_ofNat_of_valid
      (n := 64 * (64 * (64 * (b.toNat - 0xF0) + (b₁.toNat - 0x80)) + (b₂.toNat - 0x80)) +
        (b₃.toNat - 0x80)) (by omega)
    rw [hc, String.utf8EncodeChar, hv, if_neg (by omega), if_neg (by omega), if_neg (by omega)]
    simp only [List.cons.injEq, ofNat_eq_iff, and_true]
    omega

/-- **The bytes of a character** are a first byte and the bytes that it owes. -/
theorem takes_utf8EncodeChar (c : Char) : ∃ b w o,
    String.utf8EncodeChar c = b :: w ∧ first? b = some o ∧ o.Takes w c := by
  have hc : Char.ofNat c.val.toNat = c := Char.ofNat_toNat c
  have hvalid : c.val.toNat < 0xD800 ∨ 0xDFFF < c.val.toNat ∧ c.val.toNat < 0x110000 := c.valid
  obtain ⟨v, hv⟩ : ∃ v, c.val.toNat = v := ⟨_, rfl⟩
  have hvalue : ∀ n, n = v → c = Char.ofNat n := fun n hn => by rw [hn, ← hv, hc]
  have htail : ∀ n, (UInt8.ofNat (n % 0x40 + 0x80)).toNat = n % 64 + 0x80 := fun n => by
    rw [UInt8.toNat_ofNat']
    omega
  rw [String.utf8EncodeChar]
  rw [hv] at hvalid ⊢
  simp only [first?_eq_some_iff]
  split
  · have hb : (UInt8.ofNat v).toNat = v := by rw [UInt8.toNat_ofNat']; omega
    exact ⟨_, _, _, rfl, .inl ⟨by omega, rfl⟩, takes_zero_iff.mpr ⟨rfl, hvalue _ hb⟩⟩
  split
  · have hb : (UInt8.ofNat (v / 64 % 0x20 + 0xC0)).toNat = v / 64 + 0xC0 := by
      rw [UInt8.toNat_ofNat']; omega
    refine ⟨_, _, _, rfl, .inr (.inl ⟨by omega, by omega, rfl⟩), takes_succ_iff.mpr
      ⟨_, _, rfl, ?_, ?_, takes_zero_iff.mpr ⟨rfl, hvalue _ ?_⟩⟩⟩
    all_goals simp only [hb, htail, UInt8.reduceToNat]
    all_goals omega
  split
  · have hb : (UInt8.ofNat (v / 4096 % 0x10 + 0xE0)).toNat = v / 4096 + 0xE0 := by
      rw [UInt8.toNat_ofNat']; omega
    refine ⟨_, _, _, rfl, .inr (.inr (.inl ⟨by omega, by omega, rfl⟩)), takes_succ_iff.mpr
      ⟨_, _, rfl, ?_, ?_, takes_succ_iff.mpr ⟨_, _, rfl, ?_, ?_, takes_zero_iff.mpr
        ⟨rfl, hvalue _ ?_⟩⟩⟩⟩
    all_goals simp only [hb, htail, UInt8.reduceToNat, apply_ite UInt8.toNat]
    · split <;> omega
    · split <;> omega
    all_goals omega
  · have hb : (UInt8.ofNat (v / 262144 % 0x08 + 0xF0)).toNat = v / 262144 + 0xF0 := by
      rw [UInt8.toNat_ofNat']; omega
    refine ⟨_, _, _, rfl, .inr (.inr (.inr ⟨by omega, by omega, rfl⟩)), takes_succ_iff.mpr
      ⟨_, _, rfl, ?_, ?_, takes_succ_iff.mpr ⟨_, _, rfl, ?_, ?_, takes_succ_iff.mpr
        ⟨_, _, rfl, ?_, ?_, takes_zero_iff.mpr ⟨rfl, hvalue _ ?_⟩⟩⟩⟩⟩
    all_goals simp only [hb, htail, UInt8.reduceToNat, apply_ite UInt8.toNat]
    · split <;> omega
    · split <;> omega
    all_goals omega

/-! ## Texts -/

variable {done : List Char} {start pos : Nat} {o : Owed}

theorem Owed.Takes.count_eq_zero_iff {w : List UInt8} {c : Char} (h : o.Takes w c) :
    o.count = 0 ↔ w = [] := by
  cases h with
  | done hz => simp [hz]
  | byte hne => simp [hne]

theorem decodeFrom_takes {w rest : List UInt8} {c : Char} (h : o.Takes w c) (hne : w ≠ []) :
    decodeFrom done start pos (some o) (w ++ rest) =
      decodeFrom (c :: done) (pos + w.length) (pos + w.length) none rest := by
  induction h generalizing pos with
  | done => exact absurd rfl hne
  | @byte o o' b w c _ hs ht ih =>
    rw [List.cons_append, decodeFrom, hs]
    simp only
    split
    · next hz =>
      obtain rfl := ht.count_eq_zero_iff.mp hz
      cases ht
      rfl
    · next hz =>
      rw [ih fun hw => hz (ht.count_eq_zero_iff.mpr hw), List.length_cons, Nat.add_right_comm,
        Nat.add_assoc]

/-- A character is read off its bytes. -/
theorem decodeFrom_utf8EncodeChar (c : Char) (rest : List UInt8) :
    decodeFrom done pos pos none (String.utf8EncodeChar c ++ rest) =
      decodeFrom (c :: done) (pos + (String.utf8EncodeChar c).length)
        (pos + (String.utf8EncodeChar c).length) none rest := by
  obtain ⟨b, w, o, hbytes, hb, hw⟩ := takes_utf8EncodeChar c
  rw [hbytes, List.cons_append, decodeFrom, hb]
  simp only
  split
  · next hz =>
    obtain rfl := hw.count_eq_zero_iff.mp hz
    cases hw
    rfl
  · next hz =>
    rw [decodeFrom_takes hw fun h => hz (hw.count_eq_zero_iff.mpr h), List.length_cons,
      Nat.add_right_comm, Nat.add_assoc]

theorem encode_cons (c : Char) (cs : List Char) :
    encode (c :: cs) = String.utf8EncodeChar c ++ encode cs := List.flatMap_cons

/-- A text is read off its bytes. -/
theorem decodeFrom_encode (cs : List Char) (rest : List UInt8) :
    decodeFrom done pos pos none (encode cs ++ rest) =
      decodeFrom (cs.reverse ++ done) (pos + (encode cs).length) (pos + (encode cs).length) none
        rest := by
  induction cs generalizing done pos with
  | nil => rfl
  | cons c cs ih =>
    rw [encode_cons, List.append_assoc, decodeFrom_utf8EncodeChar, ih, List.reverse_cons,
      List.append_assoc, List.singleton_append, List.length_append, Nat.add_assoc]

/-- The bytes begin with those of no character. -/
def IllFormed (bytes : List UInt8) : Prop := ∀ c rest, bytes ≠ String.utf8EncodeChar c ++ rest

theorem decodeFrom_eq_error (hne : o.count ≠ 0) {bytes : List UInt8}
    (h : ∀ w rest c, bytes = w ++ rest → ¬ o.Takes w c) :
    decodeFrom done start pos (some o) bytes = .error start := by
  induction bytes generalizing o pos with
  | nil => rfl
  | cons b bytes ih =>
    rw [decodeFrom]
    cases hs : o.step? b with
    | none => rfl
    | some o' =>
      simp only
      split
      · next hz => exact absurd (.byte hne hs (.done hz)) (h [b] bytes _ rfl)
      · next hz =>
        exact ih hz fun w rest c hw ht => h (b :: w) rest c (by rw [hw]; rfl) (.byte hne hs ht)

/-- Nothing is read off bytes that begin with those of no character. -/
theorem decodeFrom_illFormed {bytes : List UInt8} (h : IllFormed bytes) (hne : bytes ≠ []) :
    decodeFrom done pos pos none bytes = .error pos := by
  obtain ⟨b, bytes, rfl⟩ := List.exists_cons_of_ne_nil hne
  rw [decodeFrom]
  cases hb : first? b with
  | none => rfl
  | some o =>
    have hnot : ∀ w rest c, bytes = w ++ rest → ¬ o.Takes w c := fun w rest c hw ht =>
      h c rest (by rw [utf8EncodeChar_of_takes hb ht, hw]; rfl)
    simp only
    split
    · next hz => exact absurd (.done hz) (hnot [] bytes _ rfl)
    · next hz => exact decodeFrom_eq_error hz hnot

/-- All bytes are those of a text and then none that begin with those of a character. -/
theorem exists_eq_encode_append (bytes : List UInt8) :
    ∃ cs rest, bytes = encode cs ++ rest ∧ IllFormed rest := by
  induction hn : bytes.length using Nat.strongRecOn generalizing bytes with
  | ind n ih =>
    by_cases h : ∃ c rest, bytes = String.utf8EncodeChar c ++ rest
    · obtain ⟨c, tail, rfl⟩ := h
      have hlt : tail.length < n := by
        have hpos := List.length_pos_iff.mpr (String.utf8EncodeChar_ne_nil (c := c))
        rw [List.length_append] at hn
        omega
      obtain ⟨cs, rest, rfl, hill⟩ := ih _ hlt tail rfl
      exact ⟨c :: cs, rest, by rw [encode_cons, List.append_assoc], hill⟩
    · exact ⟨[], bytes, rfl, fun c rest hb => h ⟨c, rest, hb⟩⟩

theorem decode_encode (cs : List Char) : decode (encode cs) = .ok cs := by
  rw [decode, ← List.append_nil (encode cs), decodeFrom_encode, List.append_nil]
  exact congrArg Except.ok (List.reverse_reverse cs)

theorem decode_append_illFormed (cs : List Char) {rest : List UInt8} (h : IllFormed rest)
    (hne : rest ≠ []) : decode (encode cs ++ rest) = .error (encode cs).length := by
  rw [decode, decodeFrom_encode, decodeFrom_illFormed h hne, Nat.zero_add]

/-- **Exactly the bytes of texts are read.** -/
theorem decode_eq_ok_iff {bytes : List UInt8} {cs : List Char} :
    decode bytes = .ok cs ↔ encode cs = bytes := by
  constructor
  · intro h
    obtain ⟨cs', rest, rfl, hill⟩ := exists_eq_encode_append bytes
    by_cases hne : rest = []
    · rw [hne, List.append_nil, decode_encode] at h
      cases h
      rw [hne, List.append_nil]
    · rw [decode_append_illFormed cs' hill hne] at h
      cases h
  · rintro rfl
    exact decode_encode cs

/-- **Reading stops** in front of the first bytes that begin with those of no character. -/
theorem decode_eq_error_iff {bytes : List UInt8} {i : Nat} : decode bytes = .error i ↔
    ∃ cs rest, bytes = encode cs ++ rest ∧ rest ≠ [] ∧ IllFormed rest ∧
      i = (encode cs).length := by
  constructor
  · intro h
    obtain ⟨cs, rest, rfl, hill⟩ := exists_eq_encode_append bytes
    by_cases hne : rest = []
    · rw [hne, List.append_nil, decode_encode] at h
      cases h
    · rw [decode_append_illFormed cs hill hne] at h
      cases h
      exact ⟨cs, rest, rfl, hne, hill, rfl⟩
  · rintro ⟨cs, rest, rfl, hne, hill, rfl⟩
    exact decode_append_illFormed cs hill hne

end PostingRules.Text.Utf8
