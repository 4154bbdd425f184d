import PostingRules.Text.Property.Named

/-!
# The width of texts

The columns that a text takes on a terminal with cells of one size.

* `wide`, `zeroWidth`: the characters of two columns, and those of none;
* `charWidth`: the columns of a character alone;
* `Neighbour`, `shown`: what stands before a character, and the columns that it adds behind it;
* **`width`**: the columns of a text. An emoji takes two, with all that is joined to it.
-/

namespace PostingRules.Text

open Property

/-- The wide characters of East Asia and the emoji that are shown in colour. -/
def wide : Ranges :=
  Ranges.ofHex
    "1100-115F 231A-231B 2329-232A 23E9-23EC 23F0 23F3 25FD-25FE 2614-2615 2630-2637 2648-2653 267F
    268A-268F 2693 26A1 26AA-26AB 26BD-26BE 26C4-26C5 26CE 26D4 26EA 26F2-26F3 26F5 26FA 26FD 2705
    270A-270B 2728 274C 274E 2753-2755 2757 2795-2797 27B0 27BF 2B1B-2B1C 2B50 2B55 2E80-2E99
    2E9B-2EF3 2F00-2FD5 2FF0-303E 3041-3096 3099-30FF 3105-312F 3131-318E 3190-31E5 31EF-321E
    3220-3247 3250-A48C A490-A4C6 A960-A97C AC00-D7A3 F900-FAFF FE10-FE19 FE30-FE52 FE54-FE66
    FE68-FE6B FF01-FF60 FFE0-FFE6 16FE0-16FE4 16FF0-16FF6 17000-18CD5 18CFF-18D1E 18D80-18DF2
    1AFF0-1AFF3 1AFF5-1AFFB 1AFFD-1AFFE 1B000-1B122 1B132 1B150-1B152 1B155 1B164-1B167
    1B170-1B2FB 1D300-1D356 1D360-1D376 1F004 1F0CF 1F18E 1F191-1F19A 1F200-1F202 1F210-1F23B
    1F240-1F248 1F250-1F251 1F260-1F265 1F300-1F320 1F32D-1F335 1F337-1F37C 1F37E-1F393
    1F3A0-1F3CA 1F3CF-1F3D3 1F3E0-1F3F0 1F3F4 1F3F8-1F43E 1F440 1F442-1F4FC 1F4FF-1F53D
    1F54B-1F54E 1F550-1F567 1F57A 1F595-1F596 1F5A4 1F5FB-1F64F 1F680-1F6C5 1F6CC 1F6D0-1F6D2
    1F6D5-1F6D8 1F6DC-1F6DF 1F6EB-1F6EC 1F6F4-1F6FC 1F7E0-1F7EB 1F7F0 1F90C-1F93A 1F93C-1F945
    1F947-1F9FF 1FA70-1FA7C 1FA80-1FA8A 1FA8E-1FAC6 1FAC8 1FACD-1FADC 1FADF-1FAEA 1FAEF-1FAF8
    20000-2FFFD 30000-3FFFD"

/-- Characters that can be ignored, that extend the one before them, or that are vowels and final
consonants of Hangul. -/
def zeroWidth : Ranges :=
  (binaryRanges? "di").getD [] ++ (binaryRanges? "grext").getD [] ++
    [(0x1160, 0x11FF), (0xD7B0, 0xD7C6), (0xD7CB, 0xD7FB), (0x605, 0x605), (0x70F, 0x70F),
      (0x890, 0x891), (0x8E2, 0x8E2), (0xA8FA, 0xA8FA)]

/-- The columns of a character alone. The filler U+115F is wide although it can be ignored. -/
def charWidth (c : Char) : Nat :=
  if c.toNat < 0x300 then (if c.toNat = 0xAD then 0 else 1)
  else if c.toNat = 0x115F then 2
  else if zeroWidth.hasChar c then 0
  else if wide.hasChar c then 2
  else 1

/-! ## Emoji -/

/-- Emoji in colour or in text. -/
def emoji : Ranges := (binaryRanges? "emoji").getD []

/-- Emoji that are shown in colour by themselves. -/
def emojiPresentation : Ranges := (binaryRanges? "epres").getD []

/-- Emoji that take a tone of skin. -/
def emojiModifierBase : Ranges := (binaryRanges? "ebase").getD []

/-- The tones of skin. -/
def isModifier (c : Char) : Bool := 0x1F3FB ≤ c.toNat && c.toNat ≤ 0x1F3FF

/-- The mark that shows the character before it in colour. -/
def colourMark : Char := '\uFE0F'

/-- The mark that shows the character before it as text. -/
def textMark : Char := '\uFE0E'

/-- The joiner of emoji. -/
def joiner : Char := '\u200D'

/-- The flags of countries are spelt with these letters, of one column each. -/
def isFlagLetter (c : Char) : Bool := 0x1F1E6 ≤ c.toNat && c.toNat ≤ 0x1F1FF

/-- The ideographs in frames stay wide as text. -/
def isFramedIdeograph (c : Char) : Bool := 0x1F200 ≤ c.toNat && c.toNat ≤ 0x1F2FF

/-- Is a character shown in colour where `next` stands behind it? -/
def isColoured (c : Char) (next : Option Char) : Bool :=
  (emoji.hasChar c && next = some colourMark) ||
    (emojiModifierBase.hasChar c && next.any isModifier) ||
    (emojiPresentation.hasChar c && !isFlagLetter c && next != some textMark)

/-- What stands before a character. -/
inductive Neighbour
  /-- Nothing that changes its width. -/
  | other
  /-- An emoji, and whether it takes a tone of skin. -/
  | emoji (tones : Bool)
  /-- An emoji and a joiner. -/
  | joined
  deriving DecidableEq, Repr

/-- The columns that a character adds, and what the next one finds before it. -/
def shown (before : Neighbour) (c : Char) (next : Option Char) : Nat × Neighbour :=
  if c.toNat < 0x300 && next != some colourMark then (charWidth c, .other)
  else if c = colourMark then
    (0, match before with | .emoji _ => .emoji false | _ => .other)
  else if c = joiner then
    (0, match before with | .emoji _ => .joined | _ => .other)
  else if isModifier c && before = .emoji true then (0, .emoji false)
  else if isColoured c next then
    (if before = .joined then 0 else 2, .emoji (emojiModifierBase.hasChar c))
  else if emojiPresentation.hasChar c && next = some textMark && !isFramedIdeograph c then
    (1, .other)
  else (charWidth c, .other)

/-- The columns of a text behind a neighbour. -/
def widthFrom (before : Neighbour) : List Char → Nat
  | [] => 0
  | c :: cs => (shown before c cs.head?).1 + widthFrom (shown before c cs.head?).2 cs

/-- **The columns of a text.** -/
def width (s : String) : Nat := widthFrom .other s.toList

end PostingRules.Text
