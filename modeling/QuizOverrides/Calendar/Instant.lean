import QuizOverrides.Calendar.Date
import QuizOverrides.Text.Ascii

set_option autoImplicit false

/-!
# Instants

An instant is a number of milliseconds since the start of 1970 in universal time. Its own text is
the date, the letter T, the time of day with milliseconds and the letter Z; years that do not fit
into four digits are written with a sign and six.

## Main definitions

* `QuizOverrides.Calendar.Instant` — milliseconds since the start of 1970.
* `QuizOverrides.Calendar.Instant.text` — the text of an instant.
* `QuizOverrides.Calendar.Instant.ofText?` — the instant of a text.
-/

namespace QuizOverrides.Calendar

open Text

/-- **An instant**: milliseconds since the start of 1970 in universal time. -/
abbrev Instant := Int

namespace Instant

/-- The milliseconds of a second. -/
def perSecond : Int := 1000

/-- The milliseconds of a minute. -/
def perMinute : Int := 60000

/-- The milliseconds of a day. -/
def perDay : Int := 86400000

/-- No instant lies further from the start of 1970 than a hundred million days. -/
def limit : Int := 8640000000000000

/-- The text of a year in an instant. -/
def yearText (y : Int) : List Char :=
  if 0 ≤ y && y ≤ 9999 then padded 4 y.toNat
  else (if y < 0 then '-' else '+') :: padded 6 y.natAbs

/-- **The text of an instant**, such as `2024-01-01T00:00:00.000Z`. -/
def text (i : Instant) : String :=
  let date := Date.ofDay (i / perDay)
  let ms := (i % perDay).toNat
  String.ofList <|
    yearText date.year ++ '-' :: padded 2 date.month ++ '-' :: padded 2 date.day ++ 'T'
      :: padded 2 (ms / 3600000) ++ ':' :: padded 2 (ms / 60000 % 60) ++ ':'
      :: padded 2 (ms / 1000 % 60) ++ '.' :: padded 3 (ms % 1000) ++ ['Z']

/-- Splits off a number of exactly `n` digits. -/
def takeNumber? (n : Nat) (cs : List Char) : Option (Nat × List Char) :=
  let ds := cs.take n
  if ds.length == n && ds.all isDigit then some (digitsValue ds, cs.drop n) else none

/-- Splits off the character `c`. -/
def takeChar? (c : Char) : List Char → Option (List Char)
  | [] => none
  | d :: cs => if d == c then some cs else none

/-- Splits off the year of an instant. -/
def takeYear? : List Char → Option (Int × List Char)
  | '+' :: cs => (takeNumber? 6 cs).map fun (y, rest) => ((y : Int), rest)
  | '-' :: cs => (takeNumber? 6 cs).map fun (y, rest) => (-(y : Int), rest)
  | cs => (takeNumber? 4 cs).map fun (y, rest) => ((y : Int), rest)

/-- **The instant of a text**, if the text is that of an instant. -/
def ofText? (s : String) : Option Instant := do
  let (year, cs) ← takeYear? s.toList
  let (month, cs) ← takeNumber? 2 (← takeChar? '-' cs)
  let (day, cs) ← takeNumber? 2 (← takeChar? '-' cs)
  let (hour, cs) ← takeNumber? 2 (← takeChar? 'T' cs)
  let (minute, cs) ← takeNumber? 2 (← takeChar? ':' cs)
  let (second, cs) ← takeNumber? 2 (← takeChar? ':' cs)
  let (ms, cs) ← takeNumber? 3 (← takeChar? '.' cs)
  let date : Date := ⟨year, month, day⟩
  if cs == ['Z'] && decide date.IsValid && hour < 24 && minute < 60 && second < 60 then
    some (date.toDay * perDay
      + ((hour * 3600000 + minute * 60000 + second * 1000 + ms : Nat) : Int))
  else none

end Instant

end QuizOverrides.Calendar
