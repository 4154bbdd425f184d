import PostingRules.Text.Moment
import Mathlib.Logic.Function.Iterate

/-!
# Dates follow the calendar

* `isLeap`, `monthLength`, `Date.next`: the calendar, as the date that follows a date;
* `next_dateIn_of_lt`, `next_dateIn_of_eq`: the days of a year that begins in March;
* `yearIn_mono`, `yearIn_spec`: the year that a day of a span falls in;
* `next_dateSinceMarch`, **`dateOf_eq_iterate`**: the date of a day is reached from the first of January
  1970 date by date;
* **`momentText_eq`**: a point in time is printed with its date in the calendar.
-/

namespace PostingRules.Text

/-! ## The calendar -/

/-- Has the year a leap day? -/
def isLeap (year : Nat) : Bool := year % 4 = 0 && (year % 100 ≠ 0 || year % 400 = 0)

/-- The days of a month, in a year with a leap day or without. -/
def monthLength (leap : Bool) (month : Nat) : Nat :=
  if month = 2 then 28 + leap.toNat else if month ∈ [4, 6, 9, 11] then 30 else 31

/-- The date that follows in a year with a leap day or without. -/
def Date.after (leap : Bool) (d : Date) : Date :=
  if d.day < monthLength leap d.month then { d with day := d.day + 1 }
  else if d.month < 12 then { d with month := d.month + 1, day := 1 }
  else ⟨d.year + 1, 1, 1⟩

/-- **The date that follows a date.** -/
def Date.next (d : Date) : Date := d.after (isLeap d.year)

/-! ## A year that begins in March -/

/-- The days of a year that begins in March. -/
def yearLength (year : Nat) : Nat := 365 + (isLeap (year + 1)).toNat

theorem yearLength_add (spans year : Nat) : yearLength (spans * 400 + year) = yearLength year := by
  have h4 : (spans * 400 + (year + 1)) % 4 = (year + 1) % 4 := by omega
  have h100 : (spans * 400 + (year + 1)) % 100 = (year + 1) % 100 := by omega
  have h400 : (spans * 400 + (year + 1)) % 400 = (year + 1) % 400 := by omega
  rw [yearLength, yearLength, isLeap, isLeap, Nat.add_assoc, h4, h100, h400]

/-- The date some years later. -/
def Date.later (d : Date) (years : Nat) : Date := { d with year := years + d.year }

theorem dateIn_eq_later (year k : Nat) : dateIn year k = (dateIn 0 k).later year := by
  rw [dateIn, dateIn, apply_ite (Date.later · year), Date.later, Date.later, Nat.zero_add]
  rfl

theorem after_later (leap : Bool) (d : Date) (years : Nat) :
    (d.later years).after leap = (d.after leap).later years := by
  rw [Date.after, Date.after, apply_ite (Date.later · years), apply_ite (Date.later · years)]
  rfl

/-- The year 0 that begins in March, with a leap day at its end or without. -/
theorem after_dateIn_zero : ∀ leap : Bool,
    (∀ k < 364 + leap.toNat, (dateIn 0 k).after leap = dateIn 0 (k + 1)) ∧
      (dateIn 0 (364 + leap.toNat)).after leap = dateIn 1 0 := by
  decide +kernel

/-- Only the end of a year that begins in March asks for a leap day, and lies in the year after. -/
theorem next_dateIn (year k : Nat) :
    (dateIn year k).next = (dateIn year k).after (isLeap (year + 1)) := by
  rw [dateIn]
  split
  · simp only [Date.next, Date.after, monthLength, show ∀ m, m + 3 ≠ 2 by omega, if_false]
  · rfl

theorem next_dateIn_of_lt {year k : Nat} (h : k + 1 < yearLength year) :
    (dateIn year k).next = dateIn year (k + 1) := by
  obtain ⟨hsucc, -⟩ := after_dateIn_zero (isLeap (year + 1))
  rw [yearLength] at h
  rw [next_dateIn, dateIn_eq_later, after_later, hsucc k (by omega), ← dateIn_eq_later]

theorem next_dateIn_of_eq {year k : Nat} (h : k + 1 = yearLength year) :
    (dateIn year k).next = dateIn (year + 1) 0 := by
  obtain ⟨-, hlast⟩ := after_dateIn_zero (isLeap (year + 1))
  obtain rfl : k = 364 + (isLeap (year + 1)).toNat := by rw [yearLength] at h; omega
  rw [next_dateIn, dateIn_eq_later, after_later, hlast]
  rfl

/-! ## A span of 400 years -/

theorem yearIn_mono {s t : Nat} (h : s ≤ t) : yearIn s ≤ yearIn t := by
  induction h with
  | refl => exact Nat.le_refl _
  | @step t _ ih =>
    refine Nat.le_trans ih (Nat.div_le_div_right ?_)
    omega

/-- The first day and the last of a year are in that year. -/
theorem yearIn_ends : ∀ year < 400, yearIn (yearStart year) = year ∧
    yearIn (yearStart year + yearLength year - 1) = year := by
  decide +kernel

/-- A year begins where the year before ends, and the last one ends the span. -/
theorem yearStart_add_yearLength :
    (∀ year < 399, yearStart year + yearLength year = yearStart (year + 1)) ∧
    yearStart 399 + yearLength 399 = 146097 := by
  decide +kernel

theorem yearEnd_le : ∀ year < 400, yearStart year + yearLength year ≤ 146097 := by
  decide +kernel

/-- **The year that a day of a span falls in.** -/
theorem yearIn_spec {s : Nat} (h : s < 146097) :
    yearIn s < 400 ∧ yearStart (yearIn s) ≤ s ∧ s < yearStart (yearIn s) + yearLength (yearIn s) := by
  obtain ⟨hnext, hlast⟩ := yearStart_add_yearLength
  have hy : yearIn s ≤ 399 := yearIn_mono (Nat.le_sub_one_of_lt h)
  refine ⟨by omega, Nat.le_of_not_lt fun hs => ?_, Nat.lt_of_not_le fun hs => ?_⟩
  · -- else it would be in the year before at the latest
    obtain ⟨z, hz⟩ := Nat.exists_eq_succ_of_ne_zero (n := yearIn s) fun h0 => by
      simp [h0, yearStart] at hs
    rw [hz, ← hnext z (by omega)] at hs
    have hle := yearIn_mono (Nat.le_sub_one_of_lt hs)
    rw [(yearIn_ends z (by omega)).2] at hle
    omega
  · -- else it would be in the year after at the earliest, or behind the span
    obtain hy | hy := Nat.lt_or_eq_of_le hy
    · have hle := yearIn_mono (hnext _ hy ▸ hs)
      rw [(yearIn_ends _ (by omega)).1] at hle
      omega
    · rw [hy, hlast] at hs
      omega

theorem yearIn_eq {year s : Nat} (hyear : year < 400) (hs : yearStart year ≤ s)
    (hs' : s < yearStart year + yearLength year) : yearIn s = year := by
  obtain ⟨hfirst, hlast⟩ := yearIn_ends year hyear
  apply Nat.le_antisymm
  · rw [← hlast]
    exact yearIn_mono (Nat.le_sub_one_of_lt hs')
  · rw [← hfirst]
    exact yearIn_mono hs

/-! ## Dates -/

/-- **Days that follow each other have dates that do.** -/
theorem next_dateSinceMarch (d : Nat) : (dateSinceMarch d).next = dateSinceMarch (d + 1) := by
  obtain ⟨hyear, hs, hs'⟩ := yearIn_spec (Nat.mod_lt d (by decide))
  obtain ⟨hnext, hlast⟩ := yearStart_add_yearLength
  rw [dateSinceMarch, dateSinceMarch]
  generalize yearIn (d % 146097) = year at *
  obtain hk | hk := Nat.lt_or_ge (d % 146097 + 1) (yearStart year + yearLength year)
  · -- the next day is in the same year
    have hend := yearEnd_le year hyear
    have hmod : (d + 1) % 146097 = d % 146097 + 1 := by omega
    have hdiv : (d + 1) / 146097 = d / 146097 := by omega
    rw [next_dateIn_of_lt (by rw [yearLength_add]; omega), hmod, hdiv,
      yearIn_eq hyear (by omega) hk, Nat.sub_add_comm hs]
  · rw [next_dateIn_of_eq (by rw [yearLength_add]; omega)]
    obtain hyear | rfl := Nat.lt_or_eq_of_le (Nat.le_of_lt_succ hyear)
    · -- it is the first of the next year of the span
      rw [hnext year hyear] at hs' hk
      have hlt : yearStart (year + 1) < 146097 := by rw [yearStart]; omega
      have hmod : (d + 1) % 146097 = yearStart (year + 1) := by omega
      have hdiv : (d + 1) / 146097 = d / 146097 := by omega
      rw [hmod, hdiv, (yearIn_ends _ (by omega)).1, Nat.sub_self, Nat.add_assoc]
    · -- it is the first of the next span
      rw [hlast] at hs' hk
      have hmod : (d + 1) % 146097 = 0 := by omega
      have hdiv : (d + 1) / 146097 = d / 146097 + 1 := by omega
      have hfirst : yearIn 0 = 0 ∧ yearStart 0 = 0 := by decide
      rw [hmod, hdiv, hfirst.1, hfirst.2, Nat.succ_mul, Nat.add_assoc]

/-- **The date of a day** is reached from the first of January 1970 date by date. -/
theorem dateOf_eq_iterate (days : Nat) : dateOf days = Date.next^[days] ⟨1970, 1, 1⟩ := by
  induction days with
  | zero => decide +kernel
  | succ days ih =>
    rw [Function.iterate_succ_apply', ← ih]
    exact (next_dateSinceMarch (719468 + days)).symm

/-- **A point in time is printed** with its date in the calendar. -/
theorem momentText_eq {days hour minute second : Nat} (hhour : hour < 24) (hminute : minute < 60)
    (hsecond : second < 60) :
    momentText (((days * 24 + hour) * 60 + minute) * 60 + second) =
      clockText (Date.next^[days] ⟨1970, 1, 1⟩) hour minute := by
  have hdays : (((days * 24 + hour) * 60 + minute) * 60 + second) / 86400 = days := by omega
  have hclock : (((days * 24 + hour) * 60 + minute) * 60 + second) / 60 % 1440 =
      hour * 60 + minute := by omega
  have hhours : (hour * 60 + minute) / 60 = hour := by omega
  have hminutes : (hour * 60 + minute) % 60 = minute := by omega
  rw [momentText, hdays, hclock, hhours, hminutes, dateOf_eq_iterate]

example : momentText 951827640 = "2000-02-29 12:34" := by decide +kernel
example : momentText 4107542340 = "2100-02-28 23:59" := by decide +kernel

end PostingRules.Text
