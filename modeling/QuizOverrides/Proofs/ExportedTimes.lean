import QuizOverrides.Proofs.StampGrammar

set_option autoImplicit false

/-!
# Exported times

A template shows a stored time as the clock of its zone does, which may be in another year than the
cell from which the time came. The cell of a template can be imported again as long as that year has
four digits, so that only times within days of the first and the last year can be lost.

## Main definitions

* `QuizOverrides.Calendar.Exported` — what becomes of an accepted time in a template.

## Main results

* `QuizOverrides.Calendar.parseStamp_clockText` — which clocks write an instant so that it is read
  back.
* `QuizOverrides.Calendar.exported_of_parseStamp` — what becomes of accepted times.
-/

namespace QuizOverrides.Calendar

open Text

/-- **What a clock writes is read back** if the offset has two digits for its hours and the year has
four, and not accepted at all otherwise. -/
theorem parseStamp_clockText {i : Instant} (hwhole : i % Instant.perMinute = 0) (offset : Int) :
    parseStamp (clockText i offset) =
      if offset.natAbs < 6000 ∧ 0 ≤ localYear i offset ∧ localYear i offset ≤ 9999 then some i
      else none := by
  split_ifs with h
  · rw [clockText_eq_stampText h.1 h.2]
    exact parseStamp_stampText hwhole h.2 h.1
  · unfold clockText
    split_ifs
    · decide
    · unfold parseStamp
      rw [StampReading.ofText?_stampText_eq_none h]
      rfl

/-- **Clocks agree on the year** up to one, if their offsets are of less than a hundred hours. -/
lemma localYear_near (i : Instant) {offset offset' : Int} (h : offset.natAbs < 6000)
    (h' : offset'.natAbs < 6000) : localYear i offset' ≤ localYear i offset + 1 := by
  obtain ⟨hle, hlt⟩ := Date.yearStart_ofDay (localMinutes i offset / 1440)
  obtain ⟨hle', hlt'⟩ := Date.yearStart_ofDay (localMinutes i offset' / 1440)
  refine Int.not_lt.mp fun hlater => ?_
  have hstart := yearStart_le (show localYear i offset + 1 + 1 ≤ localYear i offset' by omega)
  rw [yearStart_succ] at hstart
  unfold localYear localMinutes at *
  split_ifs at hstart <;> omega

/-- **What becomes of an accepted time** in a template, the cell of which gave the instant `i`. -/
structure Exported (s : String) (i : Instant) : Prop where
  /-- The cell that a clock writes is accepted for the same instant if its offset is of less than a
  hundred hours and the year that it shows has four digits. Else it is not accepted. -/
  clock : ∀ offset : Int, parseStamp (clockText i offset) =
    if offset.natAbs < 6000 ∧ 0 ≤ localYear i offset ∧ localYear i offset ≤ 9999 then some i
    else none
  /-- A zone with an offset of whole minutes writes what the clock with this offset writes. -/
  zone : ∀ (z : Zone) (offset : Int), z.secondsAt i = 60 * offset →
    formatStamp i (some z) = clockText i offset
  /-- Whatever zones the runtime knows: what a named zone with an offset of whole minutes shows is
  accepted for the same instant, and what it does not show is not accepted. -/
  shown : ∀ (zones : ZoneData) (name : String) (z : Zone), zones.find? name = some z →
    60 ∣ z.secondsAt i →
      (Shown (zones.find? name) i → parseStamp (formatStamp i (zones.find? name)) = some i) ∧
        (¬Shown (zones.find? name) i → parseStamp (formatStamp i (zones.find? name)) = none)
  /-- Apart from the first and the last year that a cell can have, every clock shows the time. -/
  inner : ∀ w : WrittenStamp, w.Shapes s → 1 ≤ w.year → w.year ≤ 9998 →
    ∀ offset : Int, offset.natAbs < 6000 → parseStamp (clockText i offset) = some i

/-- **Accepted times are exported** so that they are accepted again, wherever the clock of the
template shows a year of four digits.

**Proof sketch.** An accepted cell is of a whole minute, and a clock writes a whole minute so that
it is read back unless its numbers have too many digits. A clock with an offset of less than a
hundred hours is less than nine days away from that of the cell, and so at most one year. -/
theorem exported_of_parseStamp {s : String} {i : Instant} (h : parseStamp s = some i) :
    Exported s i := by
  obtain ⟨offset, rfl, hwhole, hoffset, hyear⟩ := parseStamp_eq_some_iff.mp h
  refine ⟨parseStamp_clockText hwhole, fun z offset => formatStamp_eq_clockText, ?_, ?_⟩
  · intro zones name z hz hminutes
    refine ⟨parseStamp_formatStamp, fun hshown => ?_⟩
    obtain ⟨offset', hoffset'⟩ := hminutes
    rw [hz] at hshown ⊢
    rw [formatStamp_eq_clockText hoffset', parseStamp_clockText hwhole, if_neg]
    exact fun hrange => hshown ⟨hwhole, z, offset', rfl, hoffset', hrange⟩
  · intro w hshapes hfirst hlast offset' hoffset'
    obtain rfl := hshapes.unique (WrittenStamp.shown_shapes hoffset hyear.1 hyear.2)
    have hsame : ((WrittenStamp.shown i offset).year : Int) = localYear i offset :=
      Int.toNat_of_nonneg hyear.1
    have hnear := localYear_near i hoffset hoffset'
    have hnear' := localYear_near i hoffset' hoffset
    rw [parseStamp_clockText hwhole, if_pos ⟨hoffset', by omega, by omega⟩]

/-- The last minute of the last year is exported. -/
theorem exported_lastMinute : parseStamp "9999-12-31 23:59 +00:00" = some 253402300740000 ∧
    Exported "9999-12-31 23:59 +00:00" 253402300740000 :=
  ⟨by decide, exported_of_parseStamp (by decide)⟩

/-- **An accepted time that a template loses**: in a zone east of Greenwich, which every runtime
knows, the last minute of the last year is in a year of five digits. -/
theorem parseStamp_formatStamp_lastMinute :
    parseStamp "9999-12-31 23:59 +00:00" = some 253402300740000 ∧
      ({} : ZoneData).knows "UTC+10" = true ∧
      ({} : ZoneData).find? "UTC+10" = some (.fixed 600) ∧
      formatStamp 253402300740000 (({} : ZoneData).find? "UTC+10") = "10000-01-01 09:59 +10:00" ∧
      parseStamp (formatStamp 253402300740000 (({} : ZoneData).find? "UTC+10")) = none :=
  ⟨by decide, by decide, rfl, by decide, by decide⟩

end QuizOverrides.Calendar
