import PostingRules.Decimal.Basic

/-!
# Points in time

* `Date`, `dateOf`: the date of a day in the calendar of Gregory;
* `clockText`, **`momentText`**: a point in time as date, hours and minutes.
-/

namespace PostingRules.Text

/-- A date in the calendar of Gregory. -/
structure Date where
  year : Nat
  month : Nat
  day : Nat
  deriving DecidableEq, Repr

/-- The year that a day of a span falls in. A span has 400 years, or 146097 days. It begins on the
first of March, and so does each year in it, so that a leap day ends one. -/
def yearIn (inSpan : Nat) : Nat :=
  (inSpan - inSpan / 1460 + inSpan / 36524 - inSpan / 146096) / 365

/-- The first day of a year in its span. -/
def yearStart (year : Nat) : Nat := 365 * year + year / 4 - year / 100

/-- The date of a day of a year that begins in March. -/
def dateIn (year inYear : Nat) : Date :=
  let month := (5 * inYear + 2) / 153
  let day := inYear - (153 * month + 2) / 5 + 1
  if month < 10 then ⟨year, month + 3, day⟩ else ⟨year + 1, month - 9, day⟩

/-- The date of a day, counted from the first of March in the year 0. -/
def dateSinceMarch (d : Nat) : Date :=
  let year := yearIn (d % 146097)
  dateIn (d / 146097 * 400 + year) (d % 146097 - yearStart year)

/-- The date of a day, counted from the first of January 1970. -/
def dateOf (days : Nat) : Date := dateSinceMarch (719468 + days)

/-- A date with hours and minutes. -/
def clockText (date : Date) (hour minute : Nat) : String :=
  String.ofList (Decimal.digits 4 date.year ++ '-' :: Decimal.digits 2 date.month ++
    '-' :: Decimal.digits 2 date.day ++ ' ' :: Decimal.digits 2 hour ++
    ':' :: Decimal.digits 2 minute)

/-- **A point in time**, in seconds since the start of 1970, as date, hours and minutes. -/
def momentText (seconds : Nat) : String :=
  let minutes := seconds / 60 % 1440
  clockText (dateOf (seconds / 86400)) (minutes / 60) (minutes % 60)

end PostingRules.Text
