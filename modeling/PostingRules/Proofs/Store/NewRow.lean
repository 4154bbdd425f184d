import PostingRules.Proofs.Store.Failure
import PostingRules.Proofs.Store.Listing
import Mathlib.Order.Bounds.Basic

/-!
# The fields and numbers of a new row

* `FieldsValid`, **`checkFields_eq_ok_iff`**: what the fields of a rule must be;
* `NewRule.StoredAs`, `storedAs_of_reads`: the fields of a new rule are those of its row;
* `nextId_pos`: the id of a new row is positive where all ids are;
* **`topPriority_spec`**: the highest priority of a workspace, floating numbers above all others;
* `IsNextPriority`, `exists_nextPriority`: the priority of a new row is one above the highest of its
  workspace;
* `nextPriority_nonneg`: it is not negative where no priority is.
-/

namespace PostingRules

open PostingRules.Text

/-! ## Fields -/

/-- **What the fields of a rule must be**: a name with a visible character and no more than 100 of any
kind, a description of no more than 500, and a value and a target that are not empty. -/
structure FieldsValid (name : String) (description : Option String) (value target : String) :
    Prop where
  name_visible : ∃ c ∈ name.toList, isBlank c = false
  name_length : name.length ≤ 100
  description_length : ∀ d, description = some d → d.length ≤ 500
  value_ne : value ≠ ""
  target_ne : target ≠ ""

theorem not_allBlank_iff {s : String} : ¬ allBlank s = true ↔ ∃ c ∈ s.toList, isBlank c = false := by
  rw [allBlank, List.all_eq_true]
  simp only [not_forall, exists_prop, Bool.not_eq_true]

theorem checkFields_eq_ok_iff {name value target : String} {description : Option String} :
    checkFields name description value target = .ok () ↔
      FieldsValid name description value target := by
  have hdescription : (description.any fun d => maxDescriptionLength < d.length) = true ↔
      ¬ ∀ d, description = some d → d.length ≤ 500 := by
    cases description with
    | none => simp
    | some d =>
      rw [Option.any_some, decide_eq_true_eq]
      simp [maxDescriptionLength]
  unfold checkFields
  constructor
  · intro h
    split_ifs at h with hname hdesc hvalue htarget
    rw [not_or, not_lt] at hname
    refine ⟨not_allBlank_iff.mp hname.1, hname.2, ?_, ?_, ?_⟩
    · rwa [hdescription, not_not] at hdesc
    · rwa [String.isEmpty_iff] at hvalue
    · rwa [String.isEmpty_iff] at htarget
  · intro h
    have hname : ¬ (allBlank name = true ∨ maxNameLength < name.length) :=
      not_or.mpr ⟨not_allBlank_iff.mpr h.name_visible, not_lt.mpr h.name_length⟩
    rw [if_neg hname,
      if_neg (by rw [hdescription, not_not]; exact h.description_length),
      if_neg (by rw [String.isEmpty_iff]; exact h.value_ne),
      if_neg (by rw [String.isEmpty_iff]; exact h.target_ne)]

theorem checkPriority_eq_ok_iff {p : Int} : checkPriority p = .ok () ↔ 0 ≤ p := by
  unfold checkPriority
  split
  · rename_i h
    simp only [reduceCtorEq, false_iff]
    exact not_le.mpr h
  · rename_i h
    simp only [true_iff]
    exact not_lt.mp h

theorem StoredRule.check_eq_ok_iff {x : StoredRule} : x.check = .ok () ↔
    FieldsValid x.name x.description x.value x.target ∧ 0 ≤ x.priority := by
  rw [StoredRule.check, bind_eq_ok_iff, Unique.exists_iff, checkPriority_eq_ok_iff]
  exact and_congr_left fun _ => checkFields_eq_ok_iff

theorem NewRule.check_eq_ok_iff {x : NewRule} : x.check = .ok () ↔
    FieldsValid x.name x.description x.value x.target ∧ ∀ p, x.priority = some p → 0 ≤ p := by
  rw [NewRule.check, bind_eq_ok_iff, Unique.exists_iff]
  refine and_congr checkFields_eq_ok_iff ?_
  cases x.priority with
  | none => simp
  | some p => simp [checkPriority_eq_ok_iff]

/-- The stored rule has the fields of a new one. -/
structure NewRule.StoredAs (new : NewRule) (x : StoredRule) : Prop where
  name : x.name = new.name
  description : x.description = new.description
  active : x.active = new.active
  condition : x.condition = new.condition
  value : x.value = new.value
  action : x.action = new.action
  target : x.target = new.target

theorem storedAs_of_reads {s : Store} {ws : String} {new : NewRule} {x : StoredRule}
    (h : (s.newRow ws new).Reads x) : new.StoredAs x where
  name := h.name.symm
  description := h.description.symm
  active := h.active.symm
  condition := Option.some.inj (h.condition.symm.trans (ConditionKind.ofName?_name new.condition))
  value := h.value.symm
  action := Option.some.inj (h.action.symm.trans (ActionKind.ofName?_name new.action))
  target := h.target.symm

/-! ## Numbers -/

theorem Numeral.succ_nonneg {a : Numeral} (h : ∀ p, a = .int p → 0 ≤ p) (p : Int)
    (hp : a.succ = .int p) : 0 ≤ p := by
  cases a with
  | float => cases hp
  | int n =>
    have hn := h n rfl
    rw [succ] at hp
    split at hp
    · cases hp
    · cases hp
      omega

theorem Numeral.max_spec (a b : Numeral) :
    (a.max b = a ∨ a.max b = b) ∧ a.key ≤ (a.max b).key ∧ b.key ≤ (a.max b).key := by
  unfold max
  split
  · rename_i h
    exact ⟨Or.inr rfl, le_iff.mp h, le_rfl⟩
  · rename_i h
    rw [le_iff, not_le] at h
    exact ⟨Or.inl rfl, le_rfl, h.le⟩

theorem foldl_max_spec (p : Numeral) (ps : List Numeral) :
    ps.foldl Numeral.max p ∈ p :: ps ∧ ∀ q ∈ p :: ps, q.key ≤ (ps.foldl Numeral.max p).key := by
  induction ps generalizing p with
  | nil => simp
  | cons a ps ih =>
    obtain ⟨hmem, hle⟩ := ih (p.max a)
    obtain ⟨hmax, hp, ha⟩ := Numeral.max_spec p a
    have hstart := hle _ List.mem_cons_self
    refine ⟨?_, fun q hq => ?_⟩
    · rcases List.mem_cons.mp hmem with h | h
      · rw [List.foldl_cons, h]
        rcases hmax with e | e
        · rw [e]
          exact List.mem_cons_self
        · rw [e]
          exact List.mem_cons_of_mem _ List.mem_cons_self
      · exact List.mem_cons_of_mem _ (List.mem_cons_of_mem _ h)
    · rcases List.mem_cons.mp hq with rfl | hq
      · exact hp.trans hstart
      · rcases List.mem_cons.mp hq with rfl | hq
        · exact ha.trans hstart
        · exact hle q (List.mem_cons_of_mem _ hq)

namespace Store

variable {s : Store} {ws : String}

/-- **The highest priority of a workspace** is 0 without rows, and else that of a row which no other
priority is above. -/
theorem topPriority_spec (s : Store) (ws : String) :
    (s.topPriority ws = .int 0 ∧ ∀ r ∈ s.rows, r.workspace ≠ ws) ∨
      ∃ r ∈ s.rows, r.workspace = ws ∧ r.priority = s.topPriority ws ∧
        ∀ r' ∈ s.rows, r'.workspace = ws → r'.priority.key ≤ (s.topPriority ws).key := by
  unfold topPriority
  cases h : (s.inWorkspace ws).map (·.priority) with
  | nil =>
    refine Or.inl ⟨rfl, fun r hr hws => ?_⟩
    rw [List.map_eq_nil_iff] at h
    exact absurd (mem_inWorkspace.mpr ⟨hr, hws⟩) (h ▸ List.not_mem_nil)
  | cons p ps =>
    obtain ⟨hmem, hle⟩ := foldl_max_spec p ps
    rw [← h] at hmem hle
    obtain ⟨r, hr, hp⟩ := List.mem_map.mp hmem
    obtain ⟨hr, hws⟩ := mem_inWorkspace.mp hr
    exact Or.inr ⟨r, hr, hws, hp, fun r' hr' hws' =>
      hle _ (List.mem_map_of_mem (mem_inWorkspace.mpr ⟨hr', hws'⟩))⟩

/-- The priorities of a workspace that are integers. -/
def priorities (s : Store) (ws : String) : Set Int :=
  {p | ∃ r ∈ s.rows, r.workspace = ws ∧ r.priority = .int p}

/-- The priority is 1 in a workspace without rows, and else one above the highest. -/
def IsNextPriority (s : Store) (ws : String) (p : Int) : Prop :=
  ((∀ r ∈ s.rows, r.workspace ≠ ws) ∧ p = 1) ∨
    ∃ top, IsGreatest (s.priorities ws) top ∧ p = top + 1

theorem IsNextPriority.lt {p q : Int} (h : s.IsNextPriority ws p) (hq : q ∈ s.priorities ws) :
    q < p := by
  rcases h with ⟨hnone, -⟩ | ⟨top, htop, rfl⟩
  · obtain ⟨r, hr, hws, -⟩ := hq
    exact absurd hws (hnone r hr)
  · exact Int.lt_add_one_of_le (htop.2 hq)

/-- **The priority of a new row** is an integer where all priorities of its workspace are, and below
the largest one. -/
theorem exists_nextPriority (hint : ∀ r ∈ s.rows, r.workspace = ws → r.priority ≠ .float)
    (hmax : ∀ p ∈ s.priorities ws, p < maxInt64) :
    ∃ p, s.nextPriority ws = .int p ∧ s.IsNextPriority ws p := by
  rcases topPriority_spec s ws with ⟨htop, hnone⟩ | ⟨r, hr, hws, htop, hle⟩
  · refine ⟨1, ?_, Or.inl ⟨hnone, rfl⟩⟩
    rw [nextPriority, htop]
    rfl
  · obtain ⟨p, hp⟩ := Numeral.ne_float_iff.mp (hint r hr hws)
    have hmem : p ∈ s.priorities ws := ⟨r, hr, hws, hp⟩
    rw [← htop, hp] at hle
    refine ⟨p + 1, ?_, Or.inr ⟨p, ⟨hmem, ?_⟩, rfl⟩⟩
    · rw [nextPriority, ← htop, hp, Numeral.succ, if_neg (hmax p hmem).ne]
    · rintro q ⟨r', hr', hws', hq⟩
      have hkey := hle r' hr' hws'
      rw [hq] at hkey
      exact WithTop.coe_le_coe.mp hkey

theorem nextPriority_nonneg (h : ∀ r ∈ s.rows, ∀ p, r.priority = .int p → 0 ≤ p) (p : Int)
    (hp : s.nextPriority ws = .int p) : 0 ≤ p := by
  refine Numeral.succ_nonneg (fun q hq => ?_) p hp
  rcases topPriority_spec s ws with ⟨htop, -⟩ | ⟨r, hr, -, htop, -⟩
  · rw [htop] at hq
    cases hq
    exact le_rfl
  · exact h r hr q (htop.trans hq)

theorem nextId_pos (h : ∀ r ∈ s.rows, 0 < r.id) : 0 < s.nextId := by
  unfold nextId
  split
  · exact Int.one_pos
  · rename_i n hn
    obtain ⟨r, hr, rfl⟩ := List.mem_map.mp (List.max?_eq_some_iff.mp hn).1
    have := h r hr
    split
    · omega
    · exact Int.one_pos.trans_le (le_freeFrom _ 1)

end Store

end PostingRules
