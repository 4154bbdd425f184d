import PostingRules.Settings
import PostingRules.Proofs.Json

/-!
# Reading written settings

* `members`: the members of the object that is written;
* `readMembers_memberText_more`, `readMembers_memberText_last`: a line of the text is read as its member;
* `readValue_textList`: the text is read as the object;
* **`read_text`**: written settings are read back.
-/

namespace PostingRules.Settings

open Json

/-- The members of the written settings. -/
def members (s : Settings) : List (Option String × Json.Value) :=
  [(some "data_dir", .string (some s.dataDir)), (some "workspace", .string (some s.workspace)),
    (some "log_level", .string (some s.logLevel))]

theorem allBlankChars_margin : AllBlankChars ['\n', ' ', ' '] := rfl

theorem allBlankChars_newline : AllBlankChars ['\n'] := rfl

theorem memberText_append (key value : String) (rest : List Char) :
    memberText key value ++ rest =
      [' ', ' '] ++ (quote key.toList ++ ':' :: ' ' :: (quote value.toList ++ rest)) := by
  simp [memberText]

theorem readMembers_memberText_more (n : Nat) (key value : String) (rest : List Char) :
    readMembers (n + 2) ('\n' :: (memberText key value ++ ',' :: rest)) =
      (readMembers (n + 1) rest).map fun p => ((some key, .string (some value)) :: p.1, p.2) := by
  rw [memberText_append]
  exact readMembers_more n key value allBlankChars_margin rest

theorem readMembers_memberText_last (n : Nat) (key value : String) (rest : List Char) :
    readMembers (n + 2) ('\n' :: (memberText key value ++ '\n' :: '\x7d' :: rest)) =
      some ([(some key, .string (some value))], rest) := by
  rw [memberText_append]
  exact readMembers_last n key value allBlankChars_margin allBlankChars_newline rest

theorem textList_eq (s : Settings) : s.textList =
    '\x7b' :: '\n' :: (memberText "data_dir" s.dataDir ++ ',' :: '\n' ::
      (memberText "workspace" s.workspace ++ ',' :: '\n' ::
        (memberText "log_level" s.logLevel ++ '\n' :: '\x7d' :: ['\n']))) := by
  simp [textList]

/-- **The written settings** are read as an object with their members. -/
theorem readValue_textList (n : Nat) (s : Settings) :
    readValue (n + 5) s.textList = some (.object s.members, ['\n']) := by
  have hfront : ∃ rest, skipBlank ('\n' :: (memberText "data_dir" s.dataDir ++ ',' :: '\n' ::
      (memberText "workspace" s.workspace ++ ',' :: '\n' ::
        (memberText "log_level" s.logLevel ++ '\n' :: '\x7d' :: ['\n'])))) = '"' :: rest :=
    ⟨_, rfl⟩
  obtain ⟨rest, hrest⟩ := hfront
  rw [textList_eq, readValue_object _ (by simp [hrest]), readMembers_memberText_more,
    readMembers_memberText_more, readMembers_memberText_last]
  rfl

theorem ofValue?_members (s : Settings) : ofValue? (.object s.members) = some s := by
  simp [ofValue?, members, member?, text?]

/-- **Written settings are read back.** -/
theorem read_text (home : String) (s : Settings) : read home s.text = s := by
  have hlength : 5 ≤ 2 * s.textList.length + 1 := by
    rw [textList_eq]
    simp only [List.length_cons]
    omega
  obtain ⟨n, hn⟩ := Nat.exists_eq_add_of_le' hlength
  have hread : read? s.textList = some (.object s.members) := by
    rw [read?, hn, readValue_textList]
    rfl
  rw [read, text, String.toList_ofList, hread, Option.bind_some, ofValue?_members,
    Option.getD_some]

end PostingRules.Settings
