import QuizOverrides.Calendar.Instant
import QuizOverrides.Number.Whole

set_option autoImplicit false

/-!
# Clocks

A clock counts the milliseconds since the start of 1970 as a number of 53 significant bits. Far from
1970 it can therefore not be set forward by single milliseconds, and once it has been set beyond all
bounds and back it counts nothing any more.

## Main definitions

* `QuizOverrides.ClockReading` — what a clock shows.
* `QuizOverrides.ClockReading.advance` — the clock set forward.
* `QuizOverrides.ClockReading.since` — the time between two readings.
* `QuizOverrides.ClockReading.instant?` — the instant of a reading.

## Main statements

* `QuizOverrides.ClockReading.advance_finite` — within 53 bits a clock counts exactly.
-/

namespace QuizOverrides

open Calendar

/-- **What a clock shows**: a number of milliseconds, or nothing. -/
abbrev ClockReading := Option Whole

namespace ClockReading

/-- What the clock of a new site shows. -/
def start : ClockReading := some (.finite 1700000000000)

/-- **The clock set forward** by a number of milliseconds. -/
def advance (now milliseconds : ClockReading) : ClockReading :=
  match now, milliseconds with
  | some n, some m => n.add? m
  | _, _ => none

/-- **The time between two readings**, in milliseconds. -/
def since (now earlier : ClockReading) : ClockReading :=
  now.advance (earlier.map Whole.neg)

/-- **The instant of a reading**, if it is not too far from 1970 to be one. -/
def instant? : ClockReading → Option Instant
  | some (.finite n) => if n.natAbs ≤ Instant.limit.toNat then some n else none
  | _ => none

/-- The instant that is written for a reading: the start of 1970 if the reading is none. -/
def instant (now : ClockReading) : Instant := now.instant?.getD 0

/-- The reading of an instant that may be missing. -/
def ofInstant? (time : Option Instant) : ClockReading := time.map .finite

/-- Within 53 bits a clock counts exactly. -/
theorem advance_finite {n m : Int} (h : (n + m).natAbs < Nat.pow 2 53) :
    advance (some (.finite n)) (some (.finite m)) = some (.finite (n + m)) := by
  simp [advance, Whole.add?, Whole.ofInt_eq_finite h]

end ClockReading

end QuizOverrides
