set_option autoImplicit false

/-!
# Civil dates

Dates of the Gregorian calendar, extended to all years in both directions (the year 0 is a leap
year), and their numbering by days. Days are counted from the first of January 1970.

## Main definitions

* `QuizOverrides.Calendar.Date` — a year, a month and a day of the month.
* `QuizOverrides.Calendar.Date.IsValid` — the month and the day exist.
* `QuizOverrides.Calendar.Date.toDay` — the number of a date.
* `QuizOverrides.Calendar.Date.ofDay` — the date of a number.

## Design

A year is found by an estimate from the mean length of a year and a correction by at most one, so
that the numbering and its inverse meet in one statement about `yearStart`.
-/

namespace QuizOverrides.Calendar

/-- **A civil date.** Months and days count from one. -/
structure Date where
  year : Int
  month : Nat
  day : Nat
deriving DecidableEq, Repr

/-- Leap years: every fourth year, of the centuries only every fourth. -/
def isLeap (y : Int) : Bool :=
  y % 4 == 0 && (y % 100 != 0 || y % 400 == 0)

/-- The number of days of a month; a month that does not exist has none. -/
def monthLength (leap : Bool) (m : Nat) : Nat :=
  match m with
  | 1 | 3 | 5 | 7 | 8 | 10 | 12 => 31
  | 4 | 6 | 9 | 11 => 30
  | 2 => if leap then 29 else 28
  | _ => 0

/-- The number of days of a year before its month `m`. -/
def monthStart (leap : Bool) : Nat → Nat
  | 0 => 0
  | m + 1 => monthStart leap m + monthLength leap m

/-- **The start of a year**: the number of days between the first of January of the year 0 and
that of the year `y`. Each year adds 365 days and each leap year before `y` one more. -/
def yearStart (y : Int) : Int :=
  365 * y + (y + 3) / 4 - (y + 99) / 100 + (y + 399) / 400

/-- The number of days between the first of January of the year 0 and that of 1970. -/
def epochStart : Int := 719528

/-- The year that holds the day with the given distance from the start of the year 0. Four hundred
years have 146097 days, so that the estimate is off by at most one. -/
def yearOf (n : Int) : Int :=
  let y := n * 400 / 146097
  if n < yearStart y then y - 1
  else if yearStart (y + 1) ≤ n then y + 1
  else y

/-- The month and the day of the month, counted from one, of the `n`-th day after the first of the
first listed month. -/
def splitMonths (leap : Bool) : List Nat → Nat → Nat × Nat
  | [], n => (12, n + 1)
  | m :: ms, n =>
    if n < monthLength leap m then (m, n + 1) else splitMonths leap ms (n - monthLength leap m)

namespace Date

/-- **A date of the calendar**: the month exists and has the day. -/
def IsValid (d : Date) : Prop :=
  1 ≤ d.month ∧ d.month ≤ 12 ∧ 1 ≤ d.day ∧ d.day ≤ monthLength (isLeap d.year) d.month

/-- Whether a date is valid can be decided. -/
instance (d : Date) : Decidable d.IsValid := by
  unfold IsValid; infer_instance

/-- **The number of a date**, counted from the first of January 1970. -/
def toDay (d : Date) : Int :=
  yearStart d.year + monthStart (isLeap d.year) d.month + (d.day : Int) - 1 - epochStart

/-- **The date of a number.** -/
def ofDay (n : Int) : Date :=
  let year := yearOf (n + epochStart)
  let (month, day) := splitMonths (isLeap year) [1, 2, 3, 4, 5, 6, 7, 8, 9, 10, 11, 12]
    (n + epochStart - yearStart year).toNat
  ⟨year, month, day⟩

/-- The day of the week of a numbered day, Sunday being 0; the first of January 1970 was a
Thursday. -/
def weekday (n : Int) : Int :=
  (n + 4) % 7

end Date

end QuizOverrides.Calendar
