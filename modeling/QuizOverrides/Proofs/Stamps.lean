import QuizOverrides.Calendar.Stamp
import QuizOverrides.Proofs.Dates
import QuizOverrides.Proofs.Decimals

set_option autoImplicit false

/-!
# Times in cells

A time that a clock shows with a year of four digits is read back from its cell, since the numbers
of the cell are those of the date and the time of day, and the date has the number of the day.

## Main definitions

* `QuizOverrides.Calendar.localYear` — the year that a clock shows.
* `QuizOverrides.Calendar.clockText` — a time as a clock with a given offset writes it.
* `QuizOverrides.Calendar.Shown` — a time that a zone shows in whole minutes, with four digits for
  the year.

## Main results

* `QuizOverrides.Calendar.StampReading.ofText?_stampText` — the numbers of a written cell.
* `QuizOverrides.Calendar.StampReading.ofText?_stampText_eq_none` — the written cells that cannot be
  read.
* `QuizOverrides.Calendar.parseStamp_stampText` — the instant of a written cell.
* `QuizOverrides.Calendar.formatStamp_eq_clockText` — a zone with an offset of whole minutes shows a
  time as the clock of this offset does.
* `QuizOverrides.Calendar.parseStamp_formatStamp` — the instant of a cell that a zone shows.
-/

namespace QuizOverrides.Calendar

open Text

/-! ### Parts of a cell -/

/-- A number that has been written with as many digits as are read. -/
lemma Instant.takeNumber?_padded {k n : Nat} (hk : 0 < k) (h : n < 10 ^ k) (rest : List Char) :
    takeNumber? k (padded k n ++ rest) = some (n, rest) := by
  have hlength := length_padded hk h
  have hdigits : (padded k n).all isDigit = true :=
    List.all_eq_true.mpr fun c hc => isDigit_of_mem_padded hc
  unfold takeNumber?
  rw [List.take_left' hlength, List.drop_left' hlength]
  simp [hlength, hdigits, digitsValue_padded]

/-- The character that is asked for is taken. -/
lemma Instant.takeChar?_cons (c : Char) (cs : List Char) : takeChar? c (c :: cs) = some cs := by
  simp [takeChar?]

/-- What is left after a number of `k` digits. -/
lemma Instant.takeNumber?_append {k n : Nat} {cs rest rest' : List Char} (hk : cs.length = k)
    (h : takeNumber? k (cs ++ rest) = some (n, rest')) : rest' = rest := by
  unfold takeNumber? at h
  rw [List.drop_left' hk] at h
  dsimp only at h
  split_ifs at h
  exact (Prod.mk.inj (Option.some.inj h)).2.symm

/-- A minus sign is no digit. -/
lemma Instant.takeNumber?_minus (k : Nat) (cs : List Char) :
    takeNumber? (k + 1) ('-' :: cs) = none := by
  have hminus : isDigit '-' = false := by decide
  simp [takeNumber?, hminus]

/-- A digit is not another character. -/
lemma Instant.takeChar?_digit {c d : Char} {cs : List Char} (hd : isDigit d = true)
    (hc : isDigit c = false) : takeChar? c (d :: cs) = none := by
  have hne : d ≠ c := by
    rintro rfl
    rw [hd] at hc
    exact absurd hc (by decide)
  simp [takeChar?, hne]

/-- Two digits. -/
lemma exists_padded_two {n : Nat} (h : n < 100) :
    ∃ a b, padded 2 n = [a, b] ∧ isDigit a = true ∧ isDigit b = true ∧ digitsValue [a, b] = n := by
  have hlength := length_padded (k := 2) (by decide) h
  have hvalue := digitsValue_padded 2 n
  have hdigit : ∀ c ∈ padded 2 n, isDigit c = true := fun c hc => isDigit_of_mem_padded hc
  match hpadded : padded 2 n, hlength with
  | [a, b], _ =>
    rw [hpadded] at hvalue hdigit
    exact ⟨a, b, rfl, hdigit a (by simp), hdigit b (by simp), hvalue⟩

/-- A written offset is read by its hours and minutes, under its sign. -/
lemma Zone.writtenOffset?_offsetText_eq (offset : Int) :
    writtenOffset? (offsetText offset) =
      (hoursMinutes? (padded 2 (offset.natAbs / 60) ++ ':' :: padded 2 (offset.natAbs % 60))).map
        fun m : Nat => if 0 ≤ offset then (m : Int) else -m := by
  unfold offsetText signedTime
  split_ifs <;> rw [List.cons_append, writtenOffset?] <;> cases hoursMinutes? _ <;> rfl

/-- **A written offset is read back**, if it has two digits for its hours. -/
lemma Zone.writtenOffset?_offsetText {offset : Int} (h : offset.natAbs < 6000) :
    writtenOffset? (offsetText offset) = some offset := by
  obtain ⟨a, b, hhours, ha, hb, hab⟩ := exists_padded_two (n := offset.natAbs / 60) (by omega)
  obtain ⟨c, d, hminutes, hc, hd, hcd⟩ := exists_padded_two (n := offset.natAbs % 60) (by omega)
  have hread : hoursMinutes?
      (padded 2 (offset.natAbs / 60) ++ ':' :: padded 2 (offset.natAbs % 60)) =
        some offset.natAbs := by
    rw [hhours, hminutes]
    change hoursMinutes? [a, b, ':', c, d] = _
    simp only [hoursMinutes?, minutesAfter?, ha, hb, hc, hd, hab, hcd, Bool.and_self, if_true,
      Option.map_some, Option.some.injEq]
    omega
  rw [writtenOffset?_offsetText_eq, hread, Option.map_some, Option.some.injEq]
  split_ifs <;> omega

/-- After the hours of an offset nothing but a colon can stand. -/
lemma Zone.minutesAfter?_cons {d : Char} (cs : List Char) (h : d ≠ ':') :
    minutesAfter? (d :: cs) = none := by
  unfold minutesAfter?
  split
  · exact absurd ‹_› (by simp)
  · exact absurd (List.cons.inj ‹_›).1 h
  · rfl

/-- **A written offset cannot be read** if it has more than two digits for its hours. -/
lemma Zone.writtenOffset?_offsetText_eq_none {offset : Int} (h : 6000 ≤ offset.natAbs) :
    writtenOffset? (offsetText offset) = none := by
  obtain ⟨cs, d, rest, hpadded, hlength, hd⟩ :=
    exists_padded_of_le (k := 2) (n := offset.natAbs / 60) (by decide) (by omega)
  have hdigits : ∀ c ∈ cs, isDigit c = true := fun c hc =>
    isDigit_of_mem_padded (k := 2) (n := offset.natAbs / 60)
      (by rw [hpadded]; exact List.mem_append_left _ hc)
  have hcolon : d ≠ ':' := by
    rintro rfl
    exact absurd hd (by decide)
  have hnone : hoursMinutes?
      (padded 2 (offset.natAbs / 60) ++ ':' :: padded 2 (offset.natAbs % 60)) = none := by
    rw [hpadded]
    match cs, hlength with
    | [a, b], _ =>
      have ha := hdigits a (by simp)
      have hb := hdigits b (by simp)
      simp only [List.cons_append, List.nil_append, hoursMinutes?, ha, hb, if_true,
        minutesAfter?_cons _ hcolon, Option.map_none]
  rw [writtenOffset?_offsetText_eq, hnone, Option.map_none]

/-! ### Cells -/

/-- The minutes since the start of 1970 that a clock shows. -/
def localMinutes (i : Instant) (offset : Int) : Int := i / Instant.perMinute + offset

/-- **The year that a clock shows** which is `offset` minutes ahead of universal time. -/
def localYear (i : Instant) (offset : Int) : Int :=
  (Date.ofDay (localMinutes i offset / 1440)).year

/-- The characters of a written cell. -/
lemma toList_stampText (i : Instant) (offset : Int) :
    (stampText i offset).toList =
      stampYear (localYear i offset) ++
      '-' :: (padded 2 (Date.ofDay (localMinutes i offset / 1440)).month ++
      '-' :: (padded 2 (Date.ofDay (localMinutes i offset / 1440)).day ++
      ' ' :: (padded 2 ((localMinutes i offset % 1440).toNat / 60) ++
      ':' :: (padded 2 ((localMinutes i offset % 1440).toNat % 60) ++
      ' ' :: offsetText offset)))) := by
  unfold stampText localText localYear localMinutes
  simp only [String.toList_ofList, List.append_assoc, List.cons_append]

/-- The numbers of a local date and time of day have two digits, apart from the year. -/
lemma localNumbers_lt (i : Instant) (offset : Int) :
    (Date.ofDay (localMinutes i offset / 1440)).month < 10 ^ 2 ∧
      (Date.ofDay (localMinutes i offset / 1440)).day < 10 ^ 2 ∧
      (localMinutes i offset % 1440).toNat / 60 < 10 ^ 2 ∧
      (localMinutes i offset % 1440).toNat % 60 < 10 ^ 2 := by
  obtain ⟨hmonth, hmonth', hday, hday'⟩ := Date.ofDay_isValid (localMinutes i offset / 1440)
  have hmonthDays := monthLength_le (isLeap (Date.ofDay (localMinutes i offset / 1440)).year)
    (Date.ofDay (localMinutes i offset / 1440)).month
  omega

namespace StampReading

/-- The numbers of a written cell are those of the date and the time of day that it shows, if its
offset can be read. -/
lemma ofText?_stampText_eq {i : Instant} {offset : Int} {year : Nat}
    (hyear : localYear i offset = year) (hdigits : year < 10 ^ 4) :
    ofText? (stampText i offset) = (Zone.writtenOffset? (offsetText offset)).map
      (StampReading.mk year (Date.ofDay (localMinutes i offset / 1440)).month
        (Date.ofDay (localMinutes i offset / 1440)).day
        ((localMinutes i offset % 1440).toNat / 60)
        ((localMinutes i offset % 1440).toNat % 60)) := by
  obtain ⟨hmonths, hdays, hhours, hminutes⟩ := localNumbers_lt i offset
  have hyearText : stampYear (localYear i offset) = padded 4 year := by
    rw [hyear, stampYear, if_neg (by omega), Int.natAbs_natCast]
  unfold ofText?
  rw [toList_stampText, hyearText]
  simp only [Instant.takeNumber?_padded (k := 4) (by decide) hdigits,
    Instant.takeNumber?_padded (k := 2) (by decide) hmonths,
    Instant.takeNumber?_padded (k := 2) (by decide) hdays,
    Instant.takeNumber?_padded (k := 2) (by decide) hhours,
    Instant.takeNumber?_padded (k := 2) (by decide) hminutes, Instant.takeChar?_cons,
    Option.bind_eq_bind, Option.bind_some]
  rw [Option.map_eq_bind]
  rfl

/-- **The numbers of a written cell** are those of the date and the time of day that it shows. -/
lemma ofText?_stampText {i : Instant} {offset : Int} {year : Nat}
    (hyear : localYear i offset = year) (hdigits : year < 10 ^ 4) (hoffset : offset.natAbs < 6000) :
    ofText? (stampText i offset) =
      some ⟨year, (Date.ofDay (localMinutes i offset / 1440)).month,
        (Date.ofDay (localMinutes i offset / 1440)).day,
        (localMinutes i offset % 1440).toNat / 60, (localMinutes i offset % 1440).toNat % 60,
        offset⟩ := by
  rw [ofText?_stampText_eq hyear hdigits, Zone.writtenOffset?_offsetText hoffset, Option.map_some]

/-- **A cell cannot be read** if its year does not have four digits, or if its offset has more than
two digits for the hours. -/
lemma ofText?_stampText_eq_none {i : Instant} {offset : Int}
    (h : ¬(offset.natAbs < 6000 ∧ 0 ≤ localYear i offset ∧ localYear i offset ≤ 9999)) :
    ofText? (stampText i offset) = none := by
  by_cases hyear : 0 ≤ localYear i offset ∧ localYear i offset ≤ 9999
  · obtain ⟨year, hsame⟩ := Int.eq_ofNat_of_zero_le hyear.1
    rw [ofText?_stampText_eq hsame (by omega), Zone.writtenOffset?_offsetText_eq_none (by omega),
      Option.map_none]
  · unfold ofText?
    rw [toList_stampText, Option.bind_eq_bind]
    by_cases hnegative : localYear i offset < 0
    · rw [stampYear, if_pos hnegative, List.cons_append, Instant.takeNumber?_minus,
        Option.bind_none]
    · obtain ⟨cs, d, rest, hpadded, hlength, hd⟩ :=
        exists_padded_of_le (k := 4) (n := (localYear i offset).natAbs) (by decide) (by omega)
      rw [stampYear, if_neg hnegative, hpadded, List.append_assoc, List.cons_append]
      rcases hread : Instant.takeNumber? 4 _ with _ | ⟨year, cs'⟩
      · rfl
      · have hrest := Instant.takeNumber?_append hlength hread
        rw [Option.bind_some, hrest]
        dsimp only
        rw [Instant.takeChar?_digit hd (by decide), Option.bind_eq_bind, Option.bind_none]

end StampReading

/-- **A written cell is read back** as the instant that it shows, if that is a whole minute and its
year has four digits.

**Proof sketch.** The numbers of the cell are those of the local date and time of day. The date has
the number of the day that it was made of, so that the instant of the numbers is the one that has
been written. -/
theorem parseStamp_stampText {i : Instant} {offset : Int} (hwhole : i % Instant.perMinute = 0)
    (hyear : 0 ≤ localYear i offset ∧ localYear i offset ≤ 9999) (hoffset : offset.natAbs < 6000) :
    parseStamp (stampText i offset) = some i := by
  obtain ⟨year, hsame⟩ := Int.eq_ofNat_of_zero_le hyear.1
  have hread := StampReading.ofText?_stampText hsame (by omega) hoffset
  have hdate : (⟨year, (Date.ofDay (localMinutes i offset / 1440)).month,
      (Date.ofDay (localMinutes i offset / 1440)).day⟩ : Date) =
      Date.ofDay (localMinutes i offset / 1440) := by
    rw [← hsame]
    rfl
  have hinstant : ((localMinutes i offset / 1440 * 1440 +
      (((localMinutes i offset % 1440).toNat / 60 * 60 +
        (localMinutes i offset % 1440).toNat % 60 : Nat) : Int) - offset) *
      Instant.perMinute) = i := by
    have hwhole : @Eq Int (i % 60000) 0 := hwhole
    unfold localMinutes Instant.perMinute
    omega
  have htime : ((localMinutes i offset % 1440).toNat / 60 < 24 ∧
      (localMinutes i offset % 1440).toNat % 60 < 60) := by omega
  unfold parseStamp
  rw [hread, Option.bind_eq_bind, Option.bind_some]
  unfold StampReading.instant? StampReading.date StampReading.isTime
  dsimp only
  rw [hdate, Date.toDay_ofDay, hinstant]
  simp [Date.ofDay_isValid, htime]

/-! ### Zones -/

/-- **A time that a zone shows**: it is a whole minute, and at this time the clocks of the zone have
an offset of whole minutes of less than a hundred hours, and a year of four digits. Nothing is asked
of the zone at other times. -/
structure Shown (zone : Option Zone) (i : Instant) : Prop where
  whole : i % Instant.perMinute = 0
  clock : ∃ z offset, zone = some z ∧ z.secondsAt i = 60 * offset ∧ offset.natAbs < 6000 ∧
    0 ≤ localYear i offset ∧ localYear i offset ≤ 9999

/-- Years of four digits are near the start of 1970. -/
lemma natAbs_day_le {n : Int} (h : 0 ≤ (Date.ofDay n).year ∧ (Date.ofDay n).year ≤ 9999) :
    n.natAbs ≤ 4000000 := by
  obtain ⟨hle, hlt⟩ := Date.yearStart_ofDay n
  unfold yearStart epochStart at hle hlt
  omega

/-- **A time as a clock writes it** that is `offset` minutes ahead of universal time, or what stands
for a time out of the range of instants. -/
def clockText (i : Instant) (offset : Int) : String :=
  if Instant.limit.toNat < i.natAbs
      || Instant.limit.toNat < (i + offset * Instant.perMinute).natAbs then invalidStamp
  else stampText i offset

/-- **A zone writes a time as a clock does**, if its offset at this time is one of whole minutes. -/
lemma formatStamp_eq_clockText {z : Zone} {i : Instant} {offset : Int}
    (h : z.secondsAt i = 60 * offset) : formatStamp i (some z) = clockText i offset := by
  have hlocal : 60 * offset * Instant.perSecond = offset * Instant.perMinute := by
    unfold Instant.perSecond Instant.perMinute
    omega
  have hminutes : (i + offset * Instant.perMinute) / Instant.perMinute =
      i / Instant.perMinute + offset :=
    Int.add_mul_ediv_right i offset (by decide)
  have hsign : (0 ≤ 60 * offset) = (0 ≤ offset) := propext (by omega)
  have hwritten : (60 * offset).natAbs / 60 = offset.natAbs := by omega
  unfold formatStamp clockText stampText offsetText
  dsimp only
  rw [h, hlocal, hminutes, hwritten]
  simp only [hsign]

/-- **A time whose year has four digits** is in the range of instants. -/
lemma clockText_eq_stampText {i : Instant} {offset : Int} (hoffset : offset.natAbs < 6000)
    (hyear : 0 ≤ localYear i offset ∧ localYear i offset ≤ 9999) :
    clockText i offset = stampText i offset := by
  have hday := natAbs_day_le hyear
  have hinRange : (decide (Instant.limit.toNat < i.natAbs) || decide (Instant.limit.toNat <
      (i + offset * Instant.perMinute).natAbs)) = false := by
    have hlimit : Instant.limit.toNat = 8640000000000000 := by decide
    unfold localMinutes Instant.perMinute at *
    rw [hlimit]
    simp only [Bool.or_eq_false_iff, decide_eq_false_iff_not]
    omega
  unfold clockText
  rw [hinRange]
  rfl

/-- **A shown time is read back.** -/
theorem parseStamp_formatStamp {zone : Option Zone} {i : Instant} (h : Shown zone i) :
    parseStamp (formatStamp i zone) = some i := by
  obtain ⟨z, offset, rfl, hseconds, hoffset, hyear⟩ := h.clock
  rw [formatStamp_eq_clockText hseconds, clockText_eq_stampText hoffset hyear]
  exact parseStamp_stampText h.whole hyear hoffset

/-- The cell of a shown time is not empty. -/
lemma formatStamp_ne_empty {zone : Option Zone} {i : Instant} (h : Shown zone i) :
    formatStamp i zone ≠ "" := by
  intro hempty
  have hnone : parseStamp "" = none := by decide
  have hread := parseStamp_formatStamp h
  rw [hempty, hnone] at hread
  exact absurd hread (by simp)

/-! ### Characters of cells -/

/-- A padded number has no carriage return. -/
lemma return_not_mem_padded (k n : Nat) : '\r' ∉ padded k n := fun h =>
  absurd (isDigit_of_mem_padded h) (by decide)

/-- A local time is written without a line end, if its offset is. -/
lemma return_not_mem_localText (minutes : Int) {offset : List Char} (h : '\r' ∉ offset) :
    '\r' ∉ (localText minutes offset).toList := by
  unfold localText stampYear
  rw [String.toList_ofList]
  split_ifs <;> simp [return_not_mem_padded, h]

/-- **No time is written with a line end.** -/
lemma return_not_mem_formatStamp (i : Instant) (zone : Option Zone) :
    '\r' ∉ (formatStamp i zone).toList := by
  unfold formatStamp
  split
  · decide
  · dsimp only
    split_ifs
    · decide
    · exact return_not_mem_localText _ (by simp [signedTime, return_not_mem_padded])
    · exact return_not_mem_localText _ (by simp [signedTime, return_not_mem_padded])

end QuizOverrides.Calendar
