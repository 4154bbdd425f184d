/-!
# Reading UTF-8

* `Utf8.first?`, `Utf8.Owed.step?`: what a first byte owes, and the next byte;
* `Utf8.decode`: the characters of a byte sequence, or the number of bytes before the first
  character that is not well formed.
-/

namespace PostingRules.Text.Utf8

/-- A character begun: the continuation bytes owed, the least and greatest value of the next one,
and the bits read so far. -/
structure Owed where
  count : Nat
  low : UInt8
  high : UInt8
  bits : Nat
  deriving Repr, DecidableEq

/-- What a first byte owes, if it may begin a character. -/
def first? (b : UInt8) : Option Owed :=
  if b < 0x80 then some ⟨0, 0x80, 0xBF, b.toNat⟩
  else if b < 0xC2 then none
  else if b < 0xE0 then some ⟨1, 0x80, 0xBF, b.toNat - 0xC0⟩
  else if b = 0xE0 then some ⟨2, 0xA0, 0xBF, 0⟩
  else if b = 0xED then some ⟨2, 0x80, 0x9F, 0xD⟩
  else if b < 0xF0 then some ⟨2, 0x80, 0xBF, b.toNat - 0xE0⟩
  else if b = 0xF0 then some ⟨3, 0x90, 0xBF, 0⟩
  else if b < 0xF4 then some ⟨3, 0x80, 0xBF, b.toNat - 0xF0⟩
  else if b = 0xF4 then some ⟨3, 0x80, 0x8F, 4⟩
  else none

/-- What is owed after one more byte, if it may stand there. -/
def Owed.step? (o : Owed) (b : UInt8) : Option Owed :=
  if o.low ≤ b ∧ b ≤ o.high then some ⟨o.count - 1, 0x80, 0xBF, 64 * o.bits + (b.toNat - 0x80)⟩
  else none

/-- Decode with a character begun, or none: `start` is the offset of that character, `pos` that of
the next byte and `done` the characters before, last first. -/
def decodeFrom (done : List Char) (start pos : Nat) :
    Option Owed → List UInt8 → Except Nat (List Char)
  | none, [] => .ok done.reverse
  | some _, [] => .error start
  | none, b :: rest =>
    match first? b with
    | none => .error pos
    | some o =>
      if o.count = 0 then decodeFrom (Char.ofNat o.bits :: done) (pos + 1) (pos + 1) none rest
      else decodeFrom done pos (pos + 1) (some o) rest
  | some o, b :: rest =>
    match o.step? b with
    | none => .error start
    | some o' =>
      if o'.count = 0 then decodeFrom (Char.ofNat o'.bits :: done) (pos + 1) (pos + 1) none rest
      else decodeFrom done start (pos + 1) (some o') rest

/-- The characters of a byte sequence, or the number of bytes before the first character that is
not well formed. -/
def decode (bytes : List UInt8) : Except Nat (List Char) := decodeFrom [] 0 0 none bytes

/-- The bytes of a text. -/
def encode (cs : List Char) : List UInt8 := cs.flatMap String.utf8EncodeChar

end PostingRules.Text.Utf8
