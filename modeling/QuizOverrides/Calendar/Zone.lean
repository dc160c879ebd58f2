import QuizOverrides.Calendar.Instant

set_option autoImplicit false

/-!
# Time zones

A time zone says by how many seconds its clocks are ahead of universal time at an instant. Zones are
found by name. Universal time and fixed offsets have names of their own; which places there are, and
how the clocks of a place run, is told by the zone data of the runtime.

## Main definitions

* `QuizOverrides.Calendar.Zone` — a time zone.
* `QuizOverrides.Calendar.Zone.fixed`, `Zone.seasonal` — zones with one offset, and with two.
* `QuizOverrides.Calendar.ZoneData` — the zones that a runtime knows.
* `QuizOverrides.Calendar.ZoneData.find?` — the zone of a name.
-/

namespace QuizOverrides.Calendar

open Text

/-- **A time zone**: the seconds by which its clocks are ahead of universal time at an instant. -/
structure Zone where
  secondsAt : Instant → Int
deriving Inhabited

namespace Zone

/-- The zone that is always the same number of minutes ahead of universal time. -/
def fixed (minutes : Int) : Zone := ⟨fun _ => 60 * minutes⟩

/-- Universal time. -/
def utc : Zone := fixed 0

end Zone

/-! ## Clocks that change twice a year -/

/-- Which Sunday of a month: the `n`-th, counted from one, or the last. -/
inductive Sunday where
  | nth (n : Nat)
  | last
deriving DecidableEq, Repr

/-- **A yearly clock change**: a Sunday of a month, the minute of that day, and the offset in
minutes of the clock on which this minute is read. -/
structure ClockChange where
  month : Nat
  sunday : Sunday
  minute : Int
  clock : Int
deriving DecidableEq, Repr

/-- The number of the day on which a Sunday of a month falls. -/
def Sunday.day (s : Sunday) (year : Int) (month : Nat) : Int :=
  match s with
  | nth n =>
    let first := Date.toDay ⟨year, month, 1⟩
    first + (7 - Date.weekday first) % 7 + 7 * ((n : Int) - 1)
  | last =>
    let final := Date.toDay ⟨year, month, monthLength (isLeap year) month⟩
    final - Date.weekday final

/-- The instant of a clock change in a year. -/
def ClockChange.instant (c : ClockChange) (year : Int) : Instant :=
  c.sunday.day year c.month * Instant.perDay + (c.minute - c.clock) * Instant.perMinute

namespace Zone

/-- **A zone with a standard offset and a summer offset**, both in minutes, and the same two clock
changes in every year. Where summer begins after it ends within a year, the turn of the year falls
into summer. -/
def seasonal (standard summer : Int) (begins ends : ClockChange) : Zone where
  secondsAt i :=
    let year := (Date.ofDay (i / Instant.perDay)).year
    let first := begins.instant year
    let last := ends.instant year
    let inSummer :=
      if first < last then decide (first ≤ i ∧ i < last) else decide (i < last ∨ first ≤ i)
    60 * if inSummer then summer else standard

/-! ## Written offsets -/

/-- Minutes after the hours of a written offset: a colon and two digits, or nothing. -/
def minutesAfter? : List Char → Option Nat
  | [] => some 0
  | [':', a, b] => if isDigit a && isDigit b then some (digitsValue [a, b]) else none
  | _ => none

/-- The minutes of an offset of one or two digits for the hours, with or without minutes. -/
def hoursMinutes? : List Char → Option Nat
  | [] => none
  | a :: rest =>
    if isDigit a then
      match rest with
      | b :: rest' =>
        if isDigit b then (minutesAfter? rest').map (digitsValue [a, b] * 60 + ·)
        else (minutesAfter? rest).map (digitsValue [a] * 60 + ·)
      | [] => some (digitsValue [a] * 60)
    else none

/-- The offset written after `utc`: a sign and hours, with or without minutes. -/
def writtenOffset? : List Char → Option Int
  | '+' :: cs => (hoursMinutes? cs).map fun m => (m : Int)
  | '-' :: cs => (hoursMinutes? cs).map fun m => -(m : Int)
  | _ => none

/-- The zone that `utc` with an offset names, in small letters. -/
def ofOffsetName? (name : String) : Option Zone :=
  match name.toList with
  | 'u' :: 't' :: 'c' :: cs => (writtenOffset? cs).map fixed
  | _ => none

end Zone

/-! ## Zone data -/

/-- **The zones that a runtime knows**: that of the server's own clock, and those of places by their
names. The data themselves say whether the case of letters matters in the name of a place. -/
structure ZoneData where
  server : Zone := .utc
  place : String → Option Zone := fun _ => none
deriving Inhabited

namespace ZoneData

/-- The names of universal time, in small letters. -/
def universalNames : List String := ["utc", "gmt"]

/-- The names of the server's own clock, in small letters. -/
def serverNames : List String := ["default", "local", "system"]

/-- **The zone of a name**: universal time, the server's own clock, `utc` with an offset, or a
place. -/
def find? (zones : ZoneData) (name : String) : Option Zone :=
  let small := lower name
  if universalNames.contains small then some .utc
  else if serverNames.contains small then some zones.server
  else (Zone.ofOffsetName? small).or (zones.place name)

/-- The name is that of a time zone. -/
def knows (zones : ZoneData) (name : String) : Bool :=
  (zones.find? name).isSome

end ZoneData

end QuizOverrides.Calendar
