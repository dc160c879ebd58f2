import QuizOverrides.Proofs.Stamps

set_option autoImplicit false

/-!
# The grammar of times in cells

A cell is read generously and accepted if the instant is written as the cell is. What is accepted in
this way is said here without the reader and without the writer: sixteen characters for the local
date and time of day and seven for the offset, with every number in its range.

## Main definitions

* `QuizOverrides.Calendar.Writes` — digits that write a number.
* `QuizOverrides.Calendar.WrittenStamp` — the numbers of a cell, each with the digits it is given.
* `QuizOverrides.Calendar.WrittenStamp.Shapes`, `QuizOverrides.Calendar.WrittenStamp.InRange` — the
  shape of a cell with these numbers, and what the numbers have to be.
* `QuizOverrides.Calendar.StampGrammar` — what is promised of a text.

## Main results

* `QuizOverrides.Calendar.parseStamp_eq_some_iff` — accepted cells are the written ones.
* `QuizOverrides.Calendar.parseStamp_grammar` — accepted cells are those of the grammar.
-/

namespace QuizOverrides.Calendar

open Text

/-! ### Accepted cells are written ones -/

/-- **Accepted cells** are those that a clock writes in whole minutes, with a year of four digits
and an offset of less than a hundred hours.

**Proof sketch.** Acceptance compares the cell with the writing of its instant, so that only written
cells are accepted. Those with a longer year or a longer offset cannot be read, all others are read
back. -/
theorem parseStamp_eq_some_iff {s : String} {i : Instant} :
    parseStamp s = some i ↔ ∃ offset : Int, s = stampText i offset ∧ i % Instant.perMinute = 0 ∧
      offset.natAbs < 6000 ∧ 0 ≤ localYear i offset ∧ localYear i offset ≤ 9999 := by
  constructor
  · intro h
    obtain ⟨r, hread, h⟩ := Option.bind_eq_some_iff.mp h
    obtain ⟨i', hinstant, h⟩ := Option.bind_eq_some_iff.mp h
    split_ifs at h with hsame
    obtain rfl : i' = i := Option.some.inj h
    refine ⟨r.offset, hsame.symm, ?_, ?_⟩
    · unfold StampReading.instant? at hinstant
      split_ifs at hinstant
      rw [← Option.some.inj hinstant]
      exact Int.mul_emod_left _ _
    · refine Decidable.byContradiction fun hrange => ?_
      rw [← hsame, StampReading.ofText?_stampText_eq_none hrange] at hread
      exact absurd hread (by simp)
  · rintro ⟨offset, rfl, hwhole, hoffset, hyear⟩
    exact parseStamp_stampText hwhole hyear hoffset

/-! ### The grammar -/

/-- **Digits that write a number**: so many digits of ASCII with this value. -/
structure Writes (cs : List Char) (k n : Nat) : Prop where
  length : cs.length = k
  digits : ∀ c ∈ cs, '0' ≤ c ∧ c ≤ '9'
  value : digitsValue cs = n

/-- A number is written with `k` digits in one way only, with zeros in front. -/
lemma writes_iff {cs : List Char} {k n : Nat} (hk : 0 < k) :
    Writes cs k n ↔ n < 10 ^ k ∧ cs = padded k n := by
  constructor
  · rintro ⟨rfl, hdigits, rfl⟩
    have hdigits : ∀ c ∈ cs, isDigit c = true := fun c hc => isDigit_iff.mpr (hdigits c hc)
    exact ⟨digitsValue_lt hdigits, eq_padded hk hdigits⟩
  · rintro ⟨hn, rfl⟩
    exact ⟨length_padded hk hn, fun c hc => isDigit_iff.mp (isDigit_of_mem_padded hc),
      digitsValue_padded k n⟩

/-- As many digits take the same characters of a text, so that they write one number. -/
lemma Writes.append_cons_inj {cs cs' rest rest' : List Char} {c c' : Char} {k n n' : Nat}
    (h : Writes cs k n) (h' : Writes cs' k n') (hsame : cs ++ c :: rest = cs' ++ c' :: rest') :
    n = n' ∧ c = c' ∧ rest = rest' := by
  obtain ⟨hdigits, hrest⟩ := List.append_inj hsame (h.length.trans h'.length.symm)
  obtain ⟨hc, hrest⟩ := List.cons.inj hrest
  exact ⟨by rw [← h.value, ← h'.value, hdigits], hc, hrest⟩

/-- **The numbers of a cell**: the local date and time of day, and the sign and the numbers of the
offset. -/
structure WrittenStamp where
  year : Nat
  month : Nat
  day : Nat
  hour : Nat
  minute : Nat
  /-- The local clock is ahead of universal time: the sign is a plus. -/
  ahead : Bool
  offsetHours : Nat
  offsetMinutes : Nat
deriving DecidableEq, Repr

namespace WrittenStamp

/-- The local date. -/
def date (w : WrittenStamp) : Date :=
  ⟨w.year, w.month, w.day⟩

/-- **The signed offset** in minutes. -/
def offset (w : WrittenStamp) : Int :=
  if w.ahead then (w.offsetHours * 60 + w.offsetMinutes : Nat)
  else -((w.offsetHours * 60 + w.offsetMinutes : Nat) : Int)

/-- **The instant of the numbers**: the local date and time of day, taken as universal time, less
the offset. -/
def instant (w : WrittenStamp) : Instant :=
  (w.date.toDay * 1440 + (w.hour * 60 + w.minute : Nat) - w.offset) * Instant.perMinute

/-- **The shape of a cell**: `YYYY-MM-DD HH:MM` and, after a blank, a sign and `HH:MM`. -/
def Shapes (w : WrittenStamp) (s : String) : Prop :=
  ∃ year month day hour minute hours minutes : List Char,
    Writes year 4 w.year ∧ Writes month 2 w.month ∧ Writes day 2 w.day ∧
    Writes hour 2 w.hour ∧ Writes minute 2 w.minute ∧
    Writes hours 2 w.offsetHours ∧ Writes minutes 2 w.offsetMinutes ∧
    s.toList = year ++ '-' :: (month ++ '-' :: (day ++ ' ' :: (hour ++ ':' :: (minute ++
      ' ' :: (if w.ahead then '+' else '-') :: (hours ++ ':' :: minutes)))))

/-- **The ranges of the numbers.** The date is one of the calendar, the time of day and the minutes
of the offset exist, and no offset is written as less than nothing. -/
structure InRange (w : WrittenStamp) : Prop where
  date : w.date.IsValid
  hour : w.hour ≤ 23
  minute : w.minute ≤ 59
  offsetMinutes : w.offsetMinutes ≤ 59
  sign : ¬(w.ahead = false ∧ w.offsetHours = 0 ∧ w.offsetMinutes = 0)

/-- **A text has the numbers of one cell only.** -/
lemma Shapes.unique {w w' : WrittenStamp} {s : String} (h : w.Shapes s) (h' : w'.Shapes s) :
    w = w' := by
  obtain ⟨year, month, day, hour, minute, hours, minutes, hyear, hmonth, hday, hhour, hminute,
    hhours, hminutes, htext⟩ := h
  obtain ⟨year', month', day', hour', minute', hours', minutes', hyear', hmonth', hday', hhour',
    hminute', hhours', hminutes', htext'⟩ := h'
  have hsame := htext.symm.trans htext'
  obtain ⟨hsameYear, -, hsame⟩ := hyear.append_cons_inj hyear' hsame
  obtain ⟨hsameMonth, -, hsame⟩ := hmonth.append_cons_inj hmonth' hsame
  obtain ⟨hsameDay, -, hsame⟩ := hday.append_cons_inj hday' hsame
  obtain ⟨hsameHour, -, hsame⟩ := hhour.append_cons_inj hhour' hsame
  obtain ⟨hsameMinute, -, hsame⟩ := hminute.append_cons_inj hminute' hsame
  obtain ⟨hsign, hsame⟩ := List.cons.inj hsame
  obtain ⟨hsameHours, -, hsame⟩ := hhours.append_cons_inj hhours' hsame
  have hsameMinutes : w.offsetMinutes = w'.offsetMinutes := by
    rw [← hminutes.value, ← hminutes'.value, hsame]
  have hahead : w.ahead = w'.ahead := by
    revert hsign
    cases w.ahead <;> cases w'.ahead <;> decide
  obtain ⟨⟩ := w
  obtain ⟨⟩ := w'
  simp only [mk.injEq]
  exact ⟨hsameYear, hsameMonth, hsameDay, hsameHour, hsameMinute, hahead, hsameHours, hsameMinutes⟩

/-! ### Cells of the grammar are written -/

/-- The offset of numbers in range is written with them. -/
lemma InRange.offsetText_offset {w : WrittenStamp} (h : w.InRange) :
    offsetText w.offset = (if w.ahead then '+' else '-') ::
      (padded 2 w.offsetHours ++ ':' :: padded 2 w.offsetMinutes) := by
  have hminutes := h.offsetMinutes
  have hquotient : (w.offsetHours * 60 + w.offsetMinutes) / 60 = w.offsetHours := by omega
  have hrest : (w.offsetHours * 60 + w.offsetMinutes) % 60 = w.offsetMinutes := by omega
  unfold offsetText signedTime offset
  cases hahead : w.ahead
  · have hpos : ¬(w.offsetHours = 0 ∧ w.offsetMinutes = 0) := fun hzero =>
      h.sign ⟨hahead, hzero⟩
    simp only [Bool.false_eq_true, if_false, Int.natAbs_neg, Int.natAbs_natCast, hquotient, hrest]
    rw [if_neg (by omega)]
    rfl
  · simp only [if_true, Int.natAbs_natCast, Int.natCast_nonneg, hquotient, hrest]
    rfl

/-- The local clock shows the local date and time of day. -/
lemma localMinutes_instant (w : WrittenStamp) :
    localMinutes w.instant w.offset = w.date.toDay * 1440 + (w.hour * 60 + w.minute : Nat) := by
  unfold localMinutes instant
  rw [Int.mul_ediv_cancel _ (by decide)]
  exact Int.sub_add_cancel _ _

/-- A local date of the calendar is the one that the local clock shows. -/
lemma InRange.ofDay_localMinutes {w : WrittenStamp} (h : w.InRange) :
    Date.ofDay (localMinutes w.instant w.offset / 1440) = w.date := by
  have hhour := h.hour
  have hminute := h.minute
  rw [localMinutes_instant, show (w.date.toDay * 1440 + ((w.hour * 60 + w.minute : Nat) : Int)) /
    1440 = w.date.toDay by omega, Date.ofDay_toDay h.date]

/-- **A cell of the grammar is written** by the clock of its offset. -/
lemma Shapes.eq_stampText {w : WrittenStamp} {s : String} (h : w.Shapes s) (hrange : w.InRange) :
    s = stampText w.instant w.offset ∧ localYear w.instant w.offset = w.year ∧ w.year ≤ 9999 ∧
      w.offset.natAbs < 6000 := by
  obtain ⟨year, month, day, hour, minute, hours, minutes, hyear, hmonth, hday, hhour, hminute,
    hhours, hminutes, htext⟩ := h
  obtain ⟨hyear, rfl⟩ := (writes_iff (by decide)).mp hyear
  obtain ⟨-, rfl⟩ := (writes_iff (by decide)).mp hmonth
  obtain ⟨-, rfl⟩ := (writes_iff (by decide)).mp hday
  obtain ⟨-, rfl⟩ := (writes_iff (by decide)).mp hhour
  obtain ⟨-, rfl⟩ := (writes_iff (by decide)).mp hminute
  obtain ⟨hhours, rfl⟩ := (writes_iff (by decide)).mp hhours
  obtain ⟨-, rfl⟩ := (writes_iff (by decide)).mp hminutes
  have hoffsetMinutes := hrange.offsetMinutes
  have hhour := hrange.hour
  have hminute := hrange.minute
  -- at its instant the clock of the offset shows the numbers of the cell
  have hlocalYear : localYear w.instant w.offset = w.year := by
    unfold localYear
    rw [hrange.ofDay_localMinutes]
    rfl
  have hyearText : stampYear w.year = padded 4 w.year := by
    rw [stampYear, if_neg (by omega), Int.natAbs_natCast]
  have htime : (localMinutes w.instant w.offset % 1440).toNat = w.hour * 60 + w.minute := by
    rw [localMinutes_instant]
    omega
  refine ⟨String.toList_inj.mp ?_, hlocalYear, by omega, ?_⟩
  · rw [htext, toList_stampText, hlocalYear, hyearText, hrange.ofDay_localMinutes, htime,
      hrange.offsetText_offset, show (w.hour * 60 + w.minute) / 60 = w.hour by omega,
      show (w.hour * 60 + w.minute) % 60 = w.minute by omega]
    rfl
  · unfold offset
    split_ifs <;> omega

/-- **A cell of the grammar is accepted** as the instant of its numbers. -/
lemma Shapes.parseStamp_eq {w : WrittenStamp} {s : String} (h : w.Shapes s) (hrange : w.InRange) :
    parseStamp s = some w.instant := by
  obtain ⟨hsame, hyear, hdigits, hoffset⟩ := h.eq_stampText hrange
  exact parseStamp_eq_some_iff.mpr
    ⟨w.offset, hsame, Int.mul_emod_left _ _, hoffset, by omega, by omega⟩

/-! ### Written cells are of the grammar -/

/-- The numbers of what a clock writes. -/
def shown (i : Instant) (offset : Int) : WrittenStamp where
  year := (localYear i offset).toNat
  month := (Date.ofDay (localMinutes i offset / 1440)).month
  day := (Date.ofDay (localMinutes i offset / 1440)).day
  hour := (localMinutes i offset % 1440).toNat / 60
  minute := (localMinutes i offset % 1440).toNat % 60
  ahead := decide (0 ≤ offset)
  offsetHours := offset.natAbs / 60
  offsetMinutes := offset.natAbs % 60

/-- The date that is shown is the one of the local day. -/
lemma shown_date {i : Instant} {offset : Int} (h : 0 ≤ localYear i offset) :
    (shown i offset).date = Date.ofDay (localMinutes i offset / 1440) := by
  unfold shown date
  dsimp only
  rw [Int.toNat_of_nonneg h]
  rfl

/-- What is shown is in range if its year is not negative. -/
lemma shown_inRange {i : Instant} {offset : Int} (h : 0 ≤ localYear i offset) :
    (shown i offset).InRange where
  date := by
    rw [shown_date h]
    exact Date.ofDay_isValid _
  hour := by
    change (localMinutes i offset % 1440).toNat / 60 ≤ 23
    omega
  minute := by
    change (localMinutes i offset % 1440).toNat % 60 ≤ 59
    omega
  offsetMinutes := by
    change offset.natAbs % 60 ≤ 59
    omega
  sign := by
    rintro ⟨hahead, hhours, hminutes⟩
    change decide (0 ≤ offset) = false at hahead
    change offset.natAbs / 60 = 0 at hhours
    change offset.natAbs % 60 = 0 at hminutes
    exact absurd (of_decide_eq_false hahead) (by omega)

/-- A stamp has the shapes of what it shows. -/
lemma shown_shapes {i : Instant} {offset : Int} (hoffset : offset.natAbs < 6000)
    (hyear : 0 ≤ localYear i offset) (hdigits : localYear i offset ≤ 9999) :
    (shown i offset).Shapes (stampText i offset) := by
  obtain ⟨hmonth, hday, hhour, hminute⟩ := localNumbers_lt i offset
  have hyearText : stampYear (localYear i offset) = padded 4 (localYear i offset).toNat := by
    rw [stampYear, if_neg (by omega)]
    congr 1
    omega
  have hwrites {k n : Nat} (hk : 0 < k) (hn : n < 10 ^ k) : Writes (padded k n) k n :=
    (writes_iff hk).mpr ⟨hn, rfl⟩
  refine ⟨_, _, _, _, _, _, _, hwrites (by decide) ?_, hwrites (by decide) hmonth,
    hwrites (by decide) hday, hwrites (by decide) hhour, hwrites (by decide) hminute,
    hwrites (by decide) ?_, hwrites (by decide) ?_, ?_⟩
  · change (localYear i offset).toNat < 10 ^ 4
    omega
  · change offset.natAbs / 60 < 10 ^ 2
    omega
  · change offset.natAbs % 60 < 10 ^ 2
    omega
  · rw [toList_stampText, hyearText]
    unfold shown offsetText signedTime
    dsimp only
    simp only [decide_eq_true_eq]
    rfl

/-- What is shown is the instant itself, if that is a whole minute. -/
lemma instant_shown {i : Instant} {offset : Int} (hwhole : i % Instant.perMinute = 0)
    (h : 0 ≤ localYear i offset) : (shown i offset).instant = i := by
  have hwhole : @Eq Int (i % 60000) 0 := hwhole
  have hoffset : (shown i offset).offset = offset := by
    unfold WrittenStamp.offset shown
    dsimp only
    simp only [decide_eq_true_eq]
    split_ifs <;> omega
  unfold instant
  rw [shown_date h, hoffset, Date.toDay_ofDay]
  change (localMinutes i offset / 1440 * 1440 + (((localMinutes i offset % 1440).toNat / 60 * 60 +
    (localMinutes i offset % 1440).toNat % 60 : Nat) : Int) - offset) * Instant.perMinute = i
  unfold localMinutes Instant.perMinute
  omega

end WrittenStamp

/-! ### The zone of an offset -/

/-- Digits come before the capitals. -/
lemma toLower_of_isDigit {c : Char} (h : isDigit c = true) : c.toLower = c := by
  have hle : c.toNat ≤ '9'.toNat := UInt32.le_iff_toNat_le.mp (isDigit_iff.mp h).2
  refine dif_neg fun hupper => ?_
  have hge : 'A'.toNat ≤ c.toNat := UInt32.le_iff_toNat_le.mp hupper.1
  exact absurd (Nat.le_trans hge hle) (by decide)

/-- An offset has no capitals. -/
lemma map_toLower_offsetText (offset : Int) :
    (offsetText offset).map Char.toLower = offsetText offset := by
  have hpadded : ∀ k n, (padded k n).map Char.toLower = padded k n := fun k n =>
    (List.map_congr_left fun c hc => toLower_of_isDigit (isDigit_of_mem_padded hc)).trans
      (List.map_id' _)
  have hplus : ('+').toLower = '+' := by decide
  have hminus : ('-').toLower = '-' := by decide
  have hcolon : (':').toLower = ':' := by decide
  unfold offsetText signedTime
  split_ifs <;> simp only [List.map_append, List.map_cons, hpadded, hplus, hminus, hcolon]

/-- The letters of the name of an offset. -/
lemma toList_offsetZoneName (offset : Int) :
    (offsetZoneName offset).toList = 'u' :: 't' :: 'c' :: offsetText offset := by
  unfold offsetZoneName
  rw [String.toList_append]
  exact congrArg (['u', 't', 'c'] ++ ·) String.toList_ofList

/-- The name of an offset is none of universal time or of the server's clock, since it goes on after
the letters `utc`. -/
lemma contains_offsetZoneName (offset : Int) :
    ZoneData.universalNames.contains (offsetZoneName offset) = false ∧
      ZoneData.serverNames.contains (offsetZoneName offset) = false := by
  have hother {names : List String}
      (h : ('u' :: 't' :: 'c' :: offsetText offset) ∉ names.map String.toList) :
      names.contains (offsetZoneName offset) = false := by
    rw [Bool.eq_false_iff, ne_eq, List.contains_iff_mem]
    intro hmem
    have hlist := List.mem_map_of_mem (f := String.toList) hmem
    rw [toList_offsetZoneName] at hlist
    exact h hlist
  exact ⟨hother (by simp [ZoneData.universalNames, offsetText, signedTime]),
    hother (by simp [ZoneData.serverNames])⟩

/-- **The zone of an offset** of less than a hundred hours has this fixed offset, whatever places
the runtime knows. -/
lemma find?_offsetZoneName (zones : ZoneData) {offset : Int} (h : offset.natAbs < 6000) :
    zones.find? (offsetZoneName offset) = some (.fixed offset) := by
  have hlower : lower (offsetZoneName offset) = offsetZoneName offset := by
    rw [lower, toList_offsetZoneName]
    refine String.toList_inj.mp ?_
    rw [String.toList_ofList, toList_offsetZoneName]
    simp only [List.map_cons, map_toLower_offsetText]
    rfl
  obtain ⟨huniversal, hserver⟩ := contains_offsetZoneName offset
  have hfixed : Zone.ofOffsetName? (offsetZoneName offset) = some (.fixed offset) := by
    rw [Zone.ofOffsetName?, toList_offsetZoneName]
    simp only [Zone.writtenOffset?_offsetText h, Option.map_some]
  unfold ZoneData.find?
  dsimp only
  rw [hlower, huniversal, hserver, hfixed]
  rfl

/-! ### Main result -/

/-- **What is promised of a text** that stands in a cell for a time. -/
structure StampGrammar (s : String) : Prop where
  /-- It is accepted if it is a cell of the grammar, and its instant is that of its numbers. -/
  accepted : ∀ i, parseStamp s = some i ↔
    ∃ w : WrittenStamp, w.Shapes s ∧ w.InRange ∧ i = w.instant
  /-- It has the numbers of one cell only. -/
  unique : ∀ w w' : WrittenStamp, w.Shapes s → w'.Shapes s → w = w'
  /-- Its offset is that of a fixed zone, which every runtime knows. -/
  zone : ∀ w : WrittenStamp, w.Shapes s → w.InRange → ∀ zones : ZoneData,
    zones.find? (offsetZoneName w.offset) = some (.fixed w.offset)
  /-- In this zone, and in every other that has the offset at its instant, its instant is written as
  the text itself. -/
  written : ∀ w : WrittenStamp, w.Shapes s → w.InRange → ∀ z : Zone,
    z.secondsAt w.instant = 60 * w.offset → formatStamp w.instant (some z) = s
  /-- No other accepted text with its offset is of its instant. -/
  apart : ∀ (t : String) (w w' : WrittenStamp), w.Shapes s → w.InRange → w'.Shapes t → w'.InRange →
    w.offset = w'.offset → s ≠ t → parseStamp s ≠ parseStamp t

/-- **Accepted cells are those of the grammar**, and their instants are those of their numbers.

**Proof sketch.** Accepted cells are those that a clock writes with a year of four digits and an
offset of less than a hundred hours. What is written so has its numbers in range. Conversely, the
numbers of a cell of the grammar are those that the clock of its offset shows at its instant, since
no two dates of the calendar have one number, and no two rows of so many digits write one number. A
text is hence told by its offset and its instant. -/
theorem parseStamp_grammar (s : String) : StampGrammar s where
  accepted i := by
    constructor
    · intro h
      obtain ⟨offset, rfl, hwhole, hoffset, hyear, hdigits⟩ := parseStamp_eq_some_iff.mp h
      exact ⟨.shown i offset, WrittenStamp.shown_shapes hoffset hyear hdigits,
        WrittenStamp.shown_inRange hyear, (WrittenStamp.instant_shown hwhole hyear).symm⟩
    · rintro ⟨w, hshapes, hrange, rfl⟩
      exact hshapes.parseStamp_eq hrange
  unique _ _ h h' := h.unique h'
  zone _ hshapes hrange zones := by
    obtain ⟨-, -, -, hoffset⟩ := hshapes.eq_stampText hrange
    exact find?_offsetZoneName zones hoffset
  written w hshapes hrange z hz := by
    obtain ⟨hsame, hyear, hdigits, hoffset⟩ := hshapes.eq_stampText hrange
    have hclock := clockText_eq_stampText (i := w.instant) hoffset ⟨by omega, by omega⟩
    exact ((formatStamp_eq_clockText hz).trans hclock).trans hsame.symm
  apart t w w' hshapes hrange hshapes' hrange' hoffset hne hsame := by
    obtain ⟨htext, -⟩ := hshapes.eq_stampText hrange
    obtain ⟨htext', -⟩ := hshapes'.eq_stampText hrange'
    rw [hshapes.parseStamp_eq hrange, hshapes'.parseStamp_eq hrange'] at hsame
    exact hne (by rw [htext, htext', Option.some.inj hsame, hoffset])

-- The end of a day can be read, but is written as the start of the next.
example : parseStamp "2024-02-29 24:00 +10:00" = none := by decide

end QuizOverrides.Calendar
