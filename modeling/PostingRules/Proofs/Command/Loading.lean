import PostingRules.Proofs.Command.SetUp
import PostingRules.Proofs.Json.Grammar

/-!
# Settings of an object

The file of the settings holds an object as a rule. A setting that it leaves out has its default, but
for the data directory: an object that leaves it out counts for nothing.

* `names`, `Gives`: the names of the settings, and whether an object gives one of them;
* `IsPlain`: an object that gives each setting once at most, as a text;
* `IsComplete`: an object that gives the data directory, and whose names are texts;
* `TakesOver`: settings as an object gives them, with defaults for those that it leaves out;
* `member?_of_count_le`, `ofValue?_object`: what is read of a setting and of all;
* **`load_of_object`**: which settings are loaded from a file with an object.
-/

namespace PostingRules.Settings

open Json Disk

/-- The members of an object: names and values. -/
abbrev Members := List (Option String × Json.Value)

/-- The names of the settings. -/
def names : List String := ["data_dir", "workspace", "log_level"]

/-- The object has a member of the name. -/
def Gives (ms : Members) (key : String) : Prop := ∃ v, (some key, v) ∈ ms

/-- **An object that gives each setting** once at most, as a text. -/
structure IsPlain (ms : Members) : Prop where
  once : ∀ key ∈ names, (ms.map (·.1)).count (some key) ≤ 1
  text : ∀ key ∈ names, ∀ v, (some key, v) ∈ ms → ∃ s, v = .string (some s)

/-- The value is the text that the object gives under the name, or the default if it gives none. -/
def GivesOr (ms : Members) (key absent value : String) : Prop :=
  (some key, .string (some value)) ∈ ms ∨ ¬ Gives ms key ∧ value = absent

/-- **Settings as an object gives them**, with defaults for those that it leaves out. -/
structure TakesOver (ms : Members) (home : String) (s : Settings) : Prop where
  dataDir : GivesOr ms "data_dir" (defaultDataDir home) s.dataDir
  workspace : GivesOr ms "workspace" defaultWorkspace s.workspace
  logLevel : GivesOr ms "log_level" defaultLogLevel s.logLevel

variable {ms : Members} {home : String}

theorem count_eq_length_filter (ms : Members) (key : String) :
    (ms.map (·.1)).count (some key) = (ms.filter (·.1 = some key)).length := by
  rw [List.count, List.countP_map, List.countP_eq_length_filter]
  refine congrArg List.length (List.filter_congr fun m _ => ?_)
  rw [Function.comp_apply, Bool.eq_iff_iff, beq_iff_eq, decide_eq_true_eq]

/-- **What is read of a setting** that is given once at most. -/
theorem member?_of_count_le {key : String} (h : (ms.map (·.1)).count (some key) ≤ 1)
    (absent : Option String) :
    (∃ v, (some key, v) ∈ ms ∧ member? ms key absent = text? v) ∨
      ¬ Gives ms key ∧ member? ms key absent = absent := by
  rw [count_eq_length_filter] at h
  unfold member?
  split
  · next hfilter =>
    refine Or.inr ⟨?_, rfl⟩
    rintro ⟨v, hv⟩
    exact List.filter_eq_nil_iff.mp hfilter _ hv (decide_eq_true rfl)
  · next m hfilter =>
    obtain ⟨hm, hkey⟩ := List.mem_filter.mp (hfilter ▸ List.mem_singleton_self m)
    obtain ⟨name, v⟩ := m
    cases of_decide_eq_true hkey
    exact Or.inl ⟨v, hm, rfl⟩
  · next hnone hone =>
    rcases Nat.le_one_iff_eq_zero_or_eq_one.mp h with hzero | hsingle
    · exact absurd (List.eq_nil_of_length_eq_zero hzero) hnone
    · obtain ⟨m, hm⟩ := List.length_eq_one_iff.mp hsingle
      exact absurd hm (hone m)

theorem IsPlain.member? (h : IsPlain ms) {key : String} (hkey : key ∈ names) (absent : Option String) :
    (∃ s, (some key, .string (some s)) ∈ ms ∧ member? ms key absent = some s) ∨
      ¬ Gives ms key ∧ Settings.member? ms key absent = absent := by
  refine (member?_of_count_le (h.once key hkey) absent).imp_left ?_
  rintro ⟨v, hv, hread⟩
  obtain ⟨s, rfl⟩ := h.text key hkey v hv
  exact ⟨s, hv, hread⟩

/-- A setting with a default is read, whether it is given or not. -/
theorem IsPlain.exists_member? (h : IsPlain ms) {key : String} (hkey : key ∈ names)
    (absent : String) :
    ∃ s, GivesOr ms key absent s ∧ Settings.member? ms key (some absent) = some s := by
  rcases h.member? hkey (some absent) with ⟨s, hs, hread⟩ | ⟨hnone, hread⟩
  · exact ⟨s, Or.inl hs, hread⟩
  · exact ⟨absent, Or.inr ⟨hnone, rfl⟩, hread⟩

/-- The object gives the data directory, and each of its names is a text. -/
def IsComplete (ms : Members) : Prop := Gives ms "data_dir" ∧ ∀ m ∈ ms, m.1.isSome = true

/-- **The settings of an object** are those that it gives, if it is complete. -/
theorem IsPlain.ofValue? (h : IsPlain ms) (home : String) :
    (∃ s, ofValue? (.object ms) = some s ∧ IsComplete ms ∧ TakesOver ms home s) ∨
      ofValue? (.object ms) = none ∧ ¬ IsComplete ms := by
  have hdir : "data_dir" ∈ names := by decide
  have hworkspace : "workspace" ∈ names := by decide
  have hlevel : "log_level" ∈ names := by decide
  obtain ⟨w, hw, hreadw⟩ := h.exists_member? hworkspace defaultWorkspace
  obtain ⟨l, hl, hreadl⟩ := h.exists_member? hlevel defaultLogLevel
  rcases h.member? hdir none with ⟨d, hd, hread⟩ | ⟨hnone, hread⟩
  · have hall : Settings.ofValue? (.object ms) =
        if ms.all (·.1.isSome) then some ⟨d, w, l⟩ else none := by
      simp [Settings.ofValue?, hread, hreadw, hreadl]
    by_cases hnames : ms.all (·.1.isSome) = true
    · rw [if_pos hnames] at hall
      exact Or.inl ⟨_, hall, ⟨⟨_, hd⟩, List.all_eq_true.mp hnames⟩, Or.inl hd, hw, hl⟩
    · rw [if_neg hnames] at hall
      exact Or.inr ⟨hall, fun hc => hnames (List.all_eq_true.mpr hc.2)⟩
  · refine Or.inr ⟨?_, fun hc => hnone hc.1⟩
    simp [Settings.ofValue?, hread]

/-- **Settings that are loaded** from a file with an object. If the object gives the data directory, each
setting is what the object gives, and its default where it gives none. An object without the data
directory counts for nothing, and so does one with half a surrogate pair in a name: all settings are
the defaults then, those too that the object gives. -/
theorem load_of_object (d : Disk) (content : String) (ms : Members)
    (hfile : d.readText (file d.homePath) = .ok content)
    (hobject : IsText (.object ms) content.toList) (hplain : IsPlain ms) :
    (IsComplete ms → TakesOver ms d.homePath (load d)) ∧
    (¬ IsComplete ms → load d = defaults d.homePath) ∧
    (TakesOver ms d.homePath (load d) ↔
      IsComplete ms ∨ TakesOver ms d.homePath (defaults d.homePath)) := by
  have hload : load d = (ofValue? (.object ms)).getD (defaults d.homePath) := by
    rw [load, hfile, Settings.read, Except.toOption, Option.getD_some, read?_eq_some_iff.mpr hobject,
      Option.bind_some]
  rcases hplain.ofValue? d.homePath with ⟨s, hs, hcomplete, htakes⟩ | ⟨hnone, hcomplete⟩
  · have hs : load d = s := by rw [hload, hs, Option.getD_some]
    rw [hs]
    exact ⟨fun _ => htakes, fun hc => absurd hcomplete hc, fun _ => Or.inl hcomplete, fun _ => htakes⟩
  · have hdefaults : load d = defaults d.homePath := by rw [hload, hnone, Option.getD_none]
    rw [hdefaults]
    exact ⟨fun hc => absurd hc hcomplete, fun _ => rfl, Or.inr, fun h => h.resolve_left hcomplete⟩

/-- A disk with a text in the file of the settings. -/
def diskWith (content : String) : Disk :=
  let p := Path.names (file "/home/me")
  { home := ["home", "me"], here := ["home", "me"]
    entries := (Disk.way p.dropLast).map (·, .directory) ++ [(p, .text content)] }

/-- An object with names and values that are escaped in part, and a member of no use. -/
def escapedObject : String :=
  " \x7b\"log_level\": \"inf\\u006f\", \"x\":[ 1,null ] ,\"d\\u0061ta_dir\":\"\\/z\"\x7d"

/-- What `escapedObject` gives. -/
def escapedMembers : Members :=
  [(some "log_level", .string (some "info")), (some "x", .array [.number ['1'], .null]),
    (some "data_dir", .string (some "/z"))]

/-- An object without the data directory. -/
def partialObject : String := "\x7b\"workspace\": \"acme\"\x7d"

/-- What `partialObject` gives. -/
def partialMembers : Members := [(some "workspace", .string (some "acme"))]

theorem load_of_object_partialObject :
    (IsPlain escapedMembers ∧ IsComplete escapedMembers ∧
      TakesOver escapedMembers "/home/me" (load (diskWith escapedObject))) ∧
    IsPlain partialMembers ∧ load (diskWith partialObject) = defaults "/home/me" ∧
      ¬ TakesOver partialMembers "/home/me" (load (diskWith partialObject)) := by
  have hescaped : IsText (.object escapedMembers) escapedObject.toList := by
    rw [← read?_eq_some_iff]
    simp only [escapedObject, String.reduceToList]
    rfl
  have hpartial : IsText (.object partialMembers) partialObject.toList := by
    rw [← read?_eq_some_iff]
    simp only [partialObject, String.reduceToList]
    rfl
  have hplain : IsPlain escapedMembers := ⟨by decide, by simp [names, escapedMembers]⟩
  have hplain' : IsPlain partialMembers := ⟨by decide, by simp [names, partialMembers]⟩
  have hcomplete : IsComplete escapedMembers :=
    ⟨⟨.string (some "/z"), by simp [escapedMembers]⟩, by simp [escapedMembers]⟩
  have hincomplete : ¬ IsComplete partialMembers := by simp [IsComplete, Gives, partialMembers]
  obtain ⟨htakes, -⟩ := load_of_object (diskWith escapedObject) escapedObject escapedMembers
    (by decide +kernel) hescaped hplain
  obtain ⟨-, hdefaults, hiff⟩ := load_of_object (diskWith partialObject) partialObject partialMembers
    (by decide +kernel) hpartial hplain'
  refine ⟨⟨hplain, hcomplete, htakes hcomplete⟩, hplain', hdefaults hincomplete, fun h => ?_⟩
  -- the workspace is given, and is not the default
  have hworkspace := ((hiff.mp h).resolve_left hincomplete).workspace
  simp [GivesOr, Gives, partialMembers, defaults, defaultWorkspace] at hworkspace

end PostingRules.Settings
