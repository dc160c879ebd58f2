import QuizOverrides.Proofs.Decimals
import QuizOverrides.Proofs.Stamps
import QuizOverrides.Proofs.TemplateLines
import QuizOverrides.Proofs.Values

set_option autoImplicit false

/-!
# Cells of templates

The cells of a line of a template are read back as what the line says: the identifier of its subject
has no blanks around it, and the validation of rows reads every value again as it is written.

## Main definitions

* `QuizOverrides.Template.Readable` — values that their cells give back.

## Main results

* `QuizOverrides.Uuid.trim_of_isIssued` — issued identifiers have no blanks around them.
* `QuizOverrides.Template.Line.readCells_record` — the cells of a line are read as its values.
* `QuizOverrides.Template.Line.isBlank_record` — they are blank only without values.
-/

namespace QuizOverrides

open Calendar Text

/-! ### Identifiers -/

namespace Uuid

/-- Digits are split off, and the rest is left. -/
lemma isHex_or_mem_of_takeHex? {n : Nat} {cs taken rest : List Char}
    (h : takeHex? n cs = some (taken, rest)) : ∀ c ∈ cs, isHex c = true ∨ c ∈ rest := by
  induction n generalizing cs taken with
  | zero =>
    simp only [takeHex?, Option.some.injEq, Prod.mk.injEq] at h
    obtain ⟨-, rfl⟩ := h
    exact fun c hc => .inr hc
  | succ n ih =>
    cases cs with
    | nil => simp [takeHex?] at h
    | cons c cs =>
      simp only [takeHex?] at h
      split_ifs at h with hc
      obtain ⟨⟨digits, rest'⟩, hdigits, heq⟩ := Option.map_eq_some_iff.mp h
      obtain ⟨-, rfl⟩ := Prod.mk.inj heq
      exact List.forall_mem_cons.mpr ⟨.inl hc, ih hdigits⟩

/-- A character that identifiers are made of. -/
def IsMark (c : Char) : Prop := isHex c = true ∨ c = '-'

/-- A group is split off, and the rest is left. -/
lemma isMark_or_mem_of_takeGroup? {n : Nat} {cs taken rest : List Char}
    (h : takeGroup? n cs = some (taken, rest)) : ∀ c ∈ cs, IsMark c ∨ c ∈ rest := by
  intro c hc
  unfold takeGroup? at h
  split at h
  · rename_i hhex
    simp only [Option.some.injEq, Prod.mk.injEq] at h
    obtain ⟨-, rfl⟩ := h
    rcases isHex_or_mem_of_takeHex? hhex c hc with hc | hc
    · exact .inl (.inl hc)
    · exact (List.mem_cons.mp hc).imp .inr id
  · simp at h

/-- Five groups are made of digits and hyphens. -/
lemma isMark_of_groups? {x : String} {groups : List (List Char)} (h : groups? x = some groups)
    {c : Char} (hc : c ∈ x.toList) : IsMark c := by
  unfold groups? at h
  obtain ⟨⟨_, _⟩, hgroup₁, h⟩ := Option.bind_eq_some_iff.mp h
  obtain ⟨⟨_, _⟩, hgroup₂, h⟩ := Option.bind_eq_some_iff.mp h
  obtain ⟨⟨_, _⟩, hgroup₃, h⟩ := Option.bind_eq_some_iff.mp h
  obtain ⟨⟨_, _⟩, hgroup₄, h⟩ := Option.bind_eq_some_iff.mp h
  obtain ⟨⟨_, rest⟩, hgroup₅, h⟩ := Option.bind_eq_some_iff.mp h
  dsimp only at h
  split_ifs at h with hempty
  rcases isMark_or_mem_of_takeGroup? hgroup₁ c hc with hc | hc
  · exact hc
  rcases isMark_or_mem_of_takeGroup? hgroup₂ c hc with hc | hc
  · exact hc
  rcases isMark_or_mem_of_takeGroup? hgroup₃ c hc with hc | hc
  · exact hc
  rcases isMark_or_mem_of_takeGroup? hgroup₄ c hc with hc | hc
  · exact hc
  rcases isHex_or_mem_of_takeHex? hgroup₅ c hc with hc | hc
  · exact .inl hc
  · rw [List.isEmpty_iff.mp hempty] at hc
    exact absurd hc List.not_mem_nil

/-- The characters of identifiers are no blanks. -/
lemma IsMark.not_isBlank {c : Char} (h : IsMark c) : isBlank c = false := by
  rcases h with h | rfl
  · have hrange : ('0'.toNat ≤ c.toNat ∧ c.toNat ≤ '9'.toNat) ∨
        ('a'.toNat ≤ c.toNat ∧ c.toNat ≤ 'f'.toNat) ∨
        ('A'.toNat ≤ c.toNat ∧ c.toNat ≤ 'F'.toNat) := by
      simpa [isHex, isDigit, Char.le_def, UInt32.le_iff_toNat_le, or_assoc] using h
    simp only [Char.reduceToNat] at hrange
    unfold isBlank
    simp only [Bool.or_eq_false_iff, Bool.and_eq_false_iff, decide_eq_false_iff_not,
      beq_eq_false_iff_ne]
    omega
  · decide

/-- **An issued identifier** has no blanks around it. -/
lemma trim_of_isIssued {x : String} (h : isIssued x = true) : trim x = x := by
  unfold isIssued at h
  rcases hgroups : groups? x with _ | groups
  · simp [hgroups] at h
  · rw [← String.ofList_toList (s := x)]
    exact trim_eq_self fun c hc => (isMark_of_groups? hgroups hc).not_isBlank

/-- An issued identifier is not empty. -/
lemma ne_empty_of_isIssued {x : String} (h : isIssued x = true) : x ≠ "" := by
  rintro rfl
  exact absurd h (by decide)

end Uuid

/-! ### Values in cells -/

/-- The cell of a time is read back. -/
lemma readTime_timeCell {zone : Option Zone} {time : Option Instant}
    (h : ∀ i, time = some i → Shown zone i) :
    readTime (Template.timeCell zone time) = ⟨time, none⟩ := by
  rcases time with _ | i
  · rfl
  · have hshown := h i rfl
    change readTime (formatStamp i zone) = _
    unfold readTime
    rw [if_neg (formatStamp_ne_empty hshown), parseStamp_formatStamp hshown]
    rfl

/-- The cell of a number is read back. -/
lemma readNumber_numberCell {number : Option Whole}
    (h : ∀ w, number = some w → ∃ n : Nat, w = .finite n ∧ n ≤ maxInteger) :
    readNumber (Template.numberCell number) = ⟨number, none⟩ := by
  rcases number with _ | w
  · rfl
  · obtain ⟨n, rfl, hn⟩ := h w rfl
    have htext : Template.numberCell (some (.finite n)) = String.ofList (digits n) := by
      unfold maxInteger at hn
      change Whole.text (.finite n) = _
      rw [Whole.text, if_neg (by omega), Int.natAbs_natCast, Number.decimalText_eq (by omega)]
    have hne : String.ofList (digits n) ≠ "" := fun hempty =>
      digits_ne_nil n (String.ofList_eq_empty_iff.mp hempty)
    rw [htext]
    unfold readNumber
    rw [if_neg hne, String.toList_ofList,
      if_pos (List.all_eq_true.mpr fun c hc => isDigit_of_mem_digits hc), digitsValue_digits]
    dsimp only
    rw [if_neg (by omega)]
    rfl

/-- The cell of a password is read back. -/
lemma readPassword_getD {password : Option String}
    (h : ∀ p, password = some p → SoundPassword p) :
    readPassword (password.getD "") = ⟨password, none⟩ := by
  rcases password with _ | p
  · rfl
  · exact readPassword_of_sound (h p rfl)

namespace Template

/-- **Values that their cells give back.** -/
structure Readable (zone : Option Zone) (v : OverrideValues) : Prop where
  times : ∀ i, v.timeOpen = some i ∨ v.timeClose = some i → Shown zone i
  timeLimit : ∀ w, v.timeLimit = some w → ∃ n : Nat, w = .finite n ∧ n ≤ maxInteger
  attempts : ∀ w, v.attempts = some w → ∃ n : Nat, w = .finite n ∧ n ≤ maxInteger
  password : ∀ p, v.password = some p → SoundPassword p
  ordered : ∀ o c, v.timeOpen = some o → v.timeClose = some c → o ≤ c

/-- Sound values are readable, if the zone shows their times. -/
lemma readable_of_sound {zone : Option Zone} {v : OverrideValues} (h : v.Sound)
    (htimes : ∀ i, v.timeOpen = some i ∨ v.timeClose = some i → Shown zone i) :
    Readable zone v :=
  ⟨htimes, h.timeLimit, h.attempts, h.password, h.times⟩

/-- No values are readable in any zone. -/
lemma readable_noValues (zone : Option Zone) : Readable zone noValues := by
  constructor <;> simp [noValues]

namespace Line

variable {zone : Option Zone} {l : Line}

/-- **Written values are read back.** -/
theorem readCells_record (h : Readable zone l.values) :
    readCells (.ofRecord (l.record zone)) =
      ⟨⟨l.values.timeOpen, none⟩, ⟨l.values.timeClose, none⟩, ⟨l.values.timeLimit, none⟩,
        ⟨l.values.attempts, none⟩, ⟨l.values.password, none⟩, .good false⟩ := by
  have hopen := readTime_timeCell fun i hi => h.times i (.inl hi)
  have hclose := readTime_timeCell fun i hi => h.times i (.inr hi)
  have hlimit := readNumber_numberCell h.timeLimit
  have hattempts := readNumber_numberCell h.attempts
  have hpassword := readPassword_getD h.password
  have hgenerate : readGenerate "" = .good false := rfl
  rw [← hopen, ← hclose, ← hlimit, ← hattempts, ← hpassword, ← hgenerate]
  rfl

/-- The cells of a line are blank only without values. -/
lemma isBlank_record (h : Readable zone l.values) (hvalues : l.values ≠ noValues) :
    (Cells.ofRecord (l.record zone)).isBlank = false := by
  refine Bool.eq_false_iff.mpr fun hblank => hvalues ?_
  simp only [Cells.isBlank, Bool.and_eq_true, beq_iff_eq] at hblank
  obtain ⟨⟨⟨⟨⟨hopen, hclose⟩, hlimit⟩, hattempts⟩, hpassword⟩, -⟩ := hblank
  have hread := readCells_record h
  unfold readCells at hread
  rw [hopen, hclose, hlimit, hattempts, hpassword] at hread
  generalize l.values = v at hread
  rcases v with ⟨timeOpen, timeClose, timeLimit, attempts, password⟩
  obtain rfl : none = timeOpen := congrArg (·.timeOpen.value) hread
  obtain rfl : none = timeClose := congrArg (·.timeClose.value) hread
  obtain rfl : none = timeLimit := congrArg (·.timeLimit.value) hread
  obtain rfl : none = attempts := congrArg (·.attempts.value) hread
  obtain rfl : none = password := congrArg (·.password.value) hread
  rfl

end Line

end Template

end QuizOverrides
