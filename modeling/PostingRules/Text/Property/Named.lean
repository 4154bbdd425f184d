import PostingRules.Text.Ranges
import PostingRules.Text.Property.AgeTable
import PostingRules.Text.Property.BinaryTable
import PostingRules.Text.Property.BreakTable
import PostingRules.Text.Property.CategoryTable
import PostingRules.Text.Property.ScriptTable
import PostingRules.Text.Property.ScriptExtensionsTable

/-!
# Character properties by name

Names are compared without regard to case, blanks and joiners, and an `is` in front is passed over.

* `normalName`: a name in the form of the tables;
* `categoryRanges?`, `scriptRanges?`, `scriptExtensionsRanges?`, `ageRanges?`, `binaryRanges?`: the
  characters of one value;
* `ofName?`: a property named alone; `ofNameValue?`: a property with a value;
* `word`, `digit`, `alphabetic`, `alphanumeric`: the sets that patterns use without a name.
-/

namespace PostingRules.Text.Property

/-- The lower-case form of an ASCII letter. -/
def asciiLower (c : Char) : Char :=
  if 'A' ≤ c ∧ c ≤ 'Z' then Char.ofNat (c.toNat + 32) else c

/-- Does the name begin with `is`, in either case? -/
def hasIs : List Char → Bool
  | a :: b :: _ => asciiLower a = 'i' && asciiLower b = 's'
  | _ => false

/-- A name in lower case, without blanks, joiners, characters beyond ASCII and an `is` in front.
The name `isc` is not that of the category `c`. -/
def normalName (cs : List Char) : String :=
  let body := if hasIs cs then cs.drop 2 else cs
  let kept := (body.filter fun c => c.toNat < 128 && c != ' ' && c != '_' && c != '-').map asciiLower
  if hasIs cs && kept = ['c'] then "isc" else String.ofList kept

/-- The ranges of the first entry that has the name. -/
def lookup? (table : List (List String × String)) (name : String) : Option Ranges :=
  (table.find? (·.1.contains name)).map fun e => Ranges.ofHex e.2

/-- Every code point that is a character. -/
def anyRanges : Ranges := [(0, 0xD7FF), (0xE000, 0x10FFFF)]

/-- The categories that a name for several stands for. -/
def categoryGroups : List (List String × List String) := [
  (["lc", "casedletter"], ["lu", "ll", "lt"]),
  (["l", "letter"], ["lu", "ll", "lt", "lm", "lo"]),
  (["m", "mark", "combiningmark"], ["mn", "mc", "me"]),
  (["n", "number"], ["nd", "nl", "no"]),
  (["p", "punctuation", "punct"], ["pc", "pd", "ps", "pe", "pi", "pf", "po"]),
  (["s", "symbol"], ["sm", "sc", "sk", "so"]),
  (["z", "separator"], ["zs", "zl", "zp"]),
  (["c", "other"], ["cc", "cf", "co", "cn"])]

/-- The categories of characters that are assigned. -/
def assigned : List String :=
  ["lu", "ll", "lt", "lm", "lo", "mn", "mc", "me", "nd", "nl", "no", "pc", "pd", "ps", "pe", "pi",
    "pf", "po", "sm", "sc", "sk", "so", "zs", "zl", "zp", "cc", "cf", "co"]

/-- The characters of some general categories. -/
def unionOf (names : List String) : Ranges := names.flatMap fun n => (lookup? categoryTable n).getD []

/-- The characters of a general category. -/
def categoryRanges? (name : String) : Option Ranges :=
  if name = "any" then some anyRanges
  else if name = "ascii" then some [(0, 0x7F)]
  else if name = "assigned" then some (unionOf assigned)
  else
    match categoryGroups.find? (·.1.contains name) with
    | some g => some (unionOf g.2)
    | none => lookup? categoryTable name

/-- The characters of a script. -/
def scriptRanges? (name : String) : Option Ranges := lookup? scriptTable name

/-- The characters used with a script. -/
def scriptExtensionsRanges? (name : String) : Option Ranges :=
  (lookup? scriptExtensionsTable name).or (scriptRanges? name)

/-- The characters that there are in a version of Unicode: those that it has added, and those before. -/
def ageRanges? (name : String) : Option Ranges :=
  (ageTable.findIdx? (·.1.contains name)).map fun i =>
    (ageTable.take (i + 1)).flatMap fun e => Ranges.ofHex e.2

/-- The characters that have a property. -/
def binaryRanges? (name : String) : Option Ranges := lookup? binaryTable name

/-- The characters of a property named alone: one that characters have or lack, a general category
or a script. The names `cf`, `sc` and `lc` are those of categories. -/
def ofName? (cs : List Char) : Option Ranges :=
  let name := normalName cs
  if name = "cf" ∨ name = "sc" ∨ name = "lc" then categoryRanges? name
  else (binaryRanges? name).or ((categoryRanges? name).or (scriptRanges? name))

/-- The characters that have a value of a property. -/
def ofNameValue? (property value : List Char) : Option Ranges :=
  let name := normalName property
  let v := normalName value
  if name = "gc" ∨ name = "generalcategory" then categoryRanges? v
  else if name = "sc" ∨ name = "script" then scriptRanges? v
  else if name = "scx" ∨ name = "scriptextensions" then scriptExtensionsRanges? v
  else if name = "age" then ageRanges? v
  else if name = "gcb" ∨ name = "graphemeclusterbreak" then lookup? graphemeBreakTable v
  else if name = "wb" ∨ name = "wordbreak" then lookup? wordBreakTable v
  else if name = "sb" ∨ name = "sentencebreak" then lookup? sentenceBreakTable v
  else none

/-! ## Sets without a name -/

/-- Letters and what counts as letters. -/
def alphabetic : Ranges := (binaryRanges? "alphabetic").getD []

/-- Decimal digits of every script. -/
def digit : Ranges := unionOf ["nd"]

/-- Letters and numbers. -/
def alphanumeric : Ranges := alphabetic ++ unionOf ["nd", "nl", "no"]

/-- The characters of words. -/
def word : Ranges :=
  alphabetic ++ unionOf ["mn", "mc", "me", "nd", "pc"] ++ (binaryRanges? "joincontrol").getD []

end PostingRules.Text.Property
