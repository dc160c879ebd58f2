import QuizOverrides.Calendar.Zone
import QuizOverrides.Payload.Fault

set_option autoImplicit false

/-!
# Date-time cells

The opening and closing times of an override are written as a local date and time of day and the
offset of the local clock, such as `2024-07-01 09:30 +10:00`. A cell is read generously first, and
accepted only if the instant that was read is written in exactly the same way.

## Main definitions

* `QuizOverrides.Calendar.stampText` — an instant as a clock with a given offset shows it.
* `QuizOverrides.Calendar.StampReading` — the numbers of a cell, and `StampReading.ofText?`.
* `QuizOverrides.Calendar.parseStamp` — the instant of an accepted cell.
* `QuizOverrides.Calendar.formatStamp` — an instant in a zone.
-/

namespace QuizOverrides.Calendar

open Text

/-! ## Writing -/

/-- A year with at least four digits, a minus sign before a negative one. -/
def stampYear (y : Int) : List Char :=
  if y < 0 then '-' :: padded 4 y.natAbs else padded 4 y.natAbs

/-- Minutes after a sign, as hours and minutes of at least two digits. -/
def signedTime (sign : Char) (minutes : Nat) : List Char :=
  sign :: padded 2 (minutes / 60) ++ ':' :: padded 2 (minutes % 60)

/-- An offset in minutes as a sign, hours and minutes; zero has a plus sign. -/
def offsetText (offset : Int) : List Char :=
  signedTime (if 0 ≤ offset then '+' else '-') offset.natAbs

/-- The local date and the time of day that so many minutes after the start of 1970 are, before an
offset. -/
def localText (minutes : Int) (offset : List Char) : String :=
  let date := Date.ofDay (minutes / 1440)
  let minute := (minutes % 1440).toNat
  String.ofList <|
    stampYear date.year ++ '-' :: padded 2 date.month ++ '-' :: padded 2 date.day ++ ' '
      :: padded 2 (minute / 60) ++ ':' :: padded 2 (minute % 60) ++ ' ' :: offset

/-- **An instant as a clock shows it** that is `offset` minutes ahead of universal time. Seconds are
dropped. -/
def stampText (i : Instant) (offset : Int) : String :=
  localText (i / Instant.perMinute + offset) (offsetText offset)

/-! ## Reading -/

/-- **The numbers of a cell**: local date, time of day and offset in minutes. -/
structure StampReading where
  year : Nat
  month : Nat
  day : Nat
  hour : Nat
  minute : Nat
  offset : Int
deriving DecidableEq, Repr

namespace StampReading

/-- **The generous reading** of a cell: the offset may leave out its minutes or the leading digit
of its hours, and no number has to be in range. -/
def ofText? (s : String) : Option StampReading := do
  let (year, cs) ← Instant.takeNumber? 4 s.toList
  let (month, cs) ← Instant.takeNumber? 2 (← Instant.takeChar? '-' cs)
  let (day, cs) ← Instant.takeNumber? 2 (← Instant.takeChar? '-' cs)
  let (hour, cs) ← Instant.takeNumber? 2 (← Instant.takeChar? ' ' cs)
  let (minute, cs) ← Instant.takeNumber? 2 (← Instant.takeChar? ':' cs)
  let offset ← Zone.writtenOffset? (← Instant.takeChar? ' ' cs)
  some ⟨year, month, day, hour, minute, offset⟩

/-- The local date. -/
def date (r : StampReading) : Date :=
  ⟨r.year, r.month, r.day⟩

/-- The time of day exists: an hour of the day and a minute of the hour, or the end of the day. -/
def isTime (r : StampReading) : Bool :=
  (r.hour < 24 && r.minute < 60) || (r.hour == 24 && r.minute == 0)

/-- The instant of the numbers of a cell, if the date and the time of day exist. The end of a day
is the start of the next. -/
def instant? (r : StampReading) : Option Instant :=
  if decide r.date.IsValid && r.isTime then
    some ((r.date.toDay * 1440 + (r.hour * 60 + r.minute : Nat) - r.offset) * Instant.perMinute)
  else none

end StampReading

/-- **Accepted cells**: the instant of the cell, if that instant is written as the cell is. -/
def parseStamp (s : String) : Option Instant := do
  let r ← StampReading.ofText? s
  let i ← r.instant?
  if stampText i r.offset = s then some i else none

/-- **The cell of a value** that may be left out, read, or the fault of a value that is no text. -/
def parseStampValue (value : Option Payload) : Except ValueFault (Option Instant) :=
  match value with
  | none => .error .noInput
  | some .null => .error (.noPart Payload.null.plainText "match")
  | some (.text s) => .ok (parseStamp s)
  | some _ => .error (.noOperation "input.match")

/-! ## Zones -/

/-- What stands for a time that cannot be shown. -/
def invalidStamp : String := "Invalid DateTime"

/-- **An instant in a zone.** Without a zone, and with an instant or a local time out of the range
of instants, there is nothing to be shown. The seconds of an offset move the clock, but they are
not written. -/
def formatStamp (i : Instant) (zone : Option Zone) : String :=
  match zone with
  | none => invalidStamp
  | some z =>
    let seconds := z.secondsAt i
    let localTime := i + seconds * Instant.perSecond
    if Instant.limit.toNat < i.natAbs || Instant.limit.toNat < localTime.natAbs then invalidStamp
    else
      localText (localTime / Instant.perMinute)
        (signedTime (if 0 ≤ seconds then '+' else '-') (seconds.natAbs / 60))

/-- The name of the zone whose clocks are ahead of universal time by a number of minutes. -/
def offsetZoneName (minutes : Int) : String :=
  "utc" ++ String.ofList (offsetText minutes)

/-- **The name of the zone that a value gives**: that of the server's own clock if the value is left
out or null, and a number is an offset in minutes. -/
def zoneName (value : Option Payload) : String :=
  match value with
  | none | some .null => "system"
  | some (.text name) => name
  | some (.number m 0) => offsetZoneName m
  | some _ => ""

end QuizOverrides.Calendar
