import Mathlib.Tactic.Lemma
import Mathlib.Tactic.SplitIfs
import QuizOverrides.Calendar.Date

set_option autoImplicit false

/-!
# The numbering of days

Every numbered day has a date of the calendar, and the date has the number of the day. The year of a
day is the one whose first day is not later, and whose successor begins later.

## Main results

* `QuizOverrides.Calendar.yearOf_spec` — the year of a day.
* `QuizOverrides.Calendar.splitMonths_spec` — the month and the day of the month.
* `QuizOverrides.Calendar.Date.ofDay_isValid`, `QuizOverrides.Calendar.Date.toDay_ofDay` — the date
  of a day.
* `QuizOverrides.Calendar.Date.ofDay_toDay` — no two dates of the calendar have one number.
-/

namespace QuizOverrides.Calendar

/-! ### Years -/

/-- A year has 365 days, or 366. -/
lemma yearStart_succ (y : Int) :
    yearStart (y + 1) = yearStart y + if isLeap y then 366 else 365 := by
  unfold yearStart isLeap
  by_cases h4 : y % 4 = 0 <;> by_cases h100 : y % 100 = 0 <;> by_cases h400 : y % 400 = 0 <;>
    simp [h4, h100, h400] <;> omega

/-- **The year of a day** has begun, and the next one has not. -/
theorem yearOf_spec (n : Int) : yearStart (yearOf n) ≤ n ∧ n < yearStart (yearOf n + 1) := by
  have hbelow : yearStart (n * 400 / 146097 - 1) ≤ n := by
    unfold yearStart
    omega
  have habove : n < yearStart (n * 400 / 146097 + 1 + 1) := by
    unfold yearStart
    omega
  unfold yearOf
  dsimp only
  split_ifs with hbefore hafter
  · rw [Int.sub_add_cancel]
    exact ⟨hbelow, hbefore⟩
  · exact ⟨hafter, habove⟩
  · exact ⟨by omega, by omega⟩

/-- Later years start later. -/
lemma yearStart_le {y y' : Int} (h : y ≤ y') : yearStart y ≤ yearStart y' := by
  unfold yearStart
  omega

/-! ### Months -/

/-- No month is longer than 31 days. -/
lemma monthLength_le (leap : Bool) (m : Nat) : monthLength leap m ≤ 31 := by
  unfold monthLength
  split <;> cases leap <;> decide

/-- A month is over before a later one begins. -/
lemma monthStart_add_le (leap : Bool) {m m' : Nat} (h : m < m') :
    monthStart leap m + monthLength leap m ≤ monthStart leap m' := by
  induction m' with
  | zero => omega
  | succ m' ih =>
    have hnext : monthStart leap (m' + 1) = monthStart leap m' + monthLength leap m' := rfl
    rcases Nat.lt_succ_iff_lt_or_eq.mp h with hlt | rfl
    · have := ih hlt
      omega
    · exact Nat.le_of_eq hnext.symm

/-- A day that begins before the month `k + l` and not before the month `k` is in one of the months
from `k` on. -/
lemma splitMonths_range {leap : Bool} {k l n m d : Nat}
    (hn : monthStart leap k + n < monthStart leap (k + l))
    (h : splitMonths leap (List.range' k l) n = (m, d)) :
    k ≤ m ∧ m < k + l ∧ 1 ≤ d ∧ d ≤ monthLength leap m ∧
      monthStart leap m + d = monthStart leap k + n + 1 := by
  induction l generalizing k n with
  | zero =>
    rw [Nat.add_zero] at hn
    omega
  | succ l ih =>
    rw [List.range'_succ, splitMonths] at h
    have hnext : monthStart leap (k + 1) = monthStart leap k + monthLength leap k := rfl
    have hend : k + 1 + l = k + (l + 1) := by omega
    split_ifs at h with hin
    · simp only [Prod.mk.injEq] at h
      obtain ⟨rfl, rfl⟩ := h
      exact ⟨by omega, by omega, by omega, by omega, by omega⟩
    · have ih := ih (by rw [hend]; omega) h
      omega

/-- **The month and the day of the month** of the `n`-th day of a year. -/
theorem splitMonths_spec {leap : Bool} {n m d : Nat} (hn : n < if leap then 366 else 365)
    (h : splitMonths leap [1, 2, 3, 4, 5, 6, 7, 8, 9, 10, 11, 12] n = (m, d)) :
    1 ≤ m ∧ m ≤ 12 ∧ 1 ≤ d ∧ d ≤ monthLength leap m ∧ monthStart leap m + d = n + 1 := by
  have hyear : monthStart leap (1 + 12) = if leap then 366 else 365 := by
    cases leap <;> decide
  have hfirst : monthStart leap 1 = 0 := by
    cases leap <;> decide
  have hspec := splitMonths_range (k := 1) (l := 12) (by omega) h
  omega

namespace Date

/-! ### Dates -/

/-- The date of a day, the year of which is known. -/
lemma exists_ofDay (n : Int) : ∃ day : Nat, n + epochStart = yearStart (ofDay n).year + day ∧
    (ofDay n).IsValid ∧
    monthStart (isLeap (ofDay n).year) (ofDay n).month + (ofDay n).day = day + 1 := by
  obtain ⟨hle, hlt⟩ := yearOf_spec (n + epochStart)
  rw [yearStart_succ] at hlt
  rcases hsplit : splitMonths (isLeap (yearOf (n + epochStart)))
    [1, 2, 3, 4, 5, 6, 7, 8, 9, 10, 11, 12]
    (n + epochStart - yearStart (yearOf (n + epochStart))).toNat with ⟨m, d⟩
  have hdate : ofDay n = ⟨yearOf (n + epochStart), m, d⟩ := by
    unfold ofDay
    dsimp only
    rw [hsplit]
  have hday : (n + epochStart - yearStart (yearOf (n + epochStart))).toNat <
      if isLeap (yearOf (n + epochStart)) then 366 else 365 := by
    split_ifs at hlt ⊢ <;> omega
  obtain ⟨hm, hm', hd, hd', hsum⟩ := splitMonths_spec hday hsplit
  rw [hdate]
  exact ⟨_, by dsimp only; omega, ⟨hm, hm', hd, hd'⟩, hsum⟩

/-- **The date of a day** is one of the calendar. -/
theorem ofDay_isValid (n : Int) : (ofDay n).IsValid := by
  obtain ⟨_, -, hvalid, -⟩ := exists_ofDay n
  exact hvalid

/-- **The date of a day has its number.** -/
theorem toDay_ofDay (n : Int) : (ofDay n).toDay = n := by
  obtain ⟨day, hyear, -, hsum⟩ := exists_ofDay n
  unfold toDay
  omega

/-- The year of a date bounds the number of its day. -/
lemma yearStart_ofDay (n : Int) :
    yearStart (ofDay n).year ≤ n + epochStart ∧ n + epochStart < yearStart ((ofDay n).year + 1) :=
  yearOf_spec (n + epochStart)

/-- The day of a date of the calendar lies in its year. -/
lemma IsValid.toDay_range {d : Date} (h : d.IsValid) :
    yearStart d.year ≤ d.toDay + epochStart ∧ d.toDay + epochStart < yearStart (d.year + 1) := by
  obtain ⟨hm, hm', hd, hd'⟩ := h
  have hend : monthStart (isLeap d.year) d.month + monthLength (isLeap d.year) d.month ≤
      monthStart (isLeap d.year) 13 := monthStart_add_le _ (by omega)
  have hyear : monthStart (isLeap d.year) 13 = if isLeap d.year then 366 else 365 := by
    cases isLeap d.year <;> decide
  rw [yearStart_succ]
  unfold toDay
  split_ifs at hyear ⊢ <;> omega

/-- **No two dates of the calendar have one number**: the years do not overlap, and neither do the
months of a year. -/
theorem toDay_injective {d e : Date} (hd : d.IsValid) (he : e.IsValid) (h : d.toDay = e.toDay) :
    d = e := by
  obtain ⟨hdle, hdlt⟩ := hd.toDay_range
  obtain ⟨hele, helt⟩ := he.toDay_range
  -- a later year starts after the end of an earlier one, and so does a later month
  have hyear : d.year = e.year := by
    rcases Int.lt_trichotomy d.year e.year with hlt | heq | hgt
    · have := yearStart_le (show d.year + 1 ≤ e.year by omega)
      omega
    · exact heq
    · have := yearStart_le (show e.year + 1 ≤ d.year by omega)
      omega
  obtain ⟨year, m, day⟩ := d
  obtain ⟨_, m', day'⟩ := e
  obtain rfl := hyear
  obtain ⟨-, -, hday, hlength⟩ := hd
  obtain ⟨-, -, hday', hlength'⟩ := he
  unfold toDay at h
  dsimp only at *
  have hmonth : m = m' := by
    rcases Nat.lt_trichotomy m m' with hlt | heq | hgt
    · have := monthStart_add_le (isLeap year) hlt
      omega
    · exact heq
    · have := monthStart_add_le (isLeap year) hgt
      omega
  subst hmonth
  obtain rfl : day = day' := by omega
  rfl

/-- **The number of a date of the calendar has that date.** -/
theorem ofDay_toDay {d : Date} (h : d.IsValid) : ofDay d.toDay = d :=
  toDay_injective (ofDay_isValid d.toDay) h (toDay_ofDay d.toDay)

end Date

end QuizOverrides.Calendar
