import Mathlib.Data.List.DropRight
import Mathlib.Data.List.TakeWhile
import QuizOverrides.Proofs.Messages
import QuizOverrides.Proofs.Resolution
import QuizOverrides.Proofs.Rounding

set_option autoImplicit false

/-!
# The rules of the cells

Each cell of a row is judged by a rule of its own, and the opening time by the closing time as well.
Whatever else is wrong with a row, it has an error for each rule that is violated and for no other;
and each value is read from its own cell, if that is not empty and violates no rule.

## Main definitions

* `QuizOverrides.Text.HasBlankEnd` — a text begins or ends with a blank.
* `QuizOverrides.InLimit` — a cell writes a number within the limit.
* `QuizOverrides.Cells.Judged` — the errors and the values that cells have to be validated with.

## Main results

* `QuizOverrides.Text.trim_eq_self_iff` — what trimming leaves alone.
* `QuizOverrides.Whole.less_ofInt_iff` — rounding does not matter for the limit of numbers.
* `QuizOverrides.validate_judges` — the validation of a row.
-/

namespace QuizOverrides

open QuizOverrides.Action

/-! ### Blanks -/

namespace Text

/-- **A text begins or ends with a blank.** -/
def HasBlankEnd (s : String) : Prop :=
  (∃ c, s.toList.head? = some c ∧ isBlank c = true) ∨
    ∃ c, s.toList.getLast? = some c ∧ isBlank c = true

/-- Characters are left alone by trimming if they neither begin nor end with a blank. -/
lemma trimChars_eq_self_iff {cs : List Char} :
    trimChars cs = cs ↔
      (∀ c, cs.head? = some c → isBlank c = false) ∧
        ∀ c, cs.getLast? = some c → isBlank c = false := by
  have hfirst : cs.dropWhile isBlank = cs ↔ ∀ c, cs.head? = some c → isBlank c = false := by
    cases cs with
    | nil => simp
    | cons c rest => simp [List.dropWhile_eq_self_iff]
  have hlast : cs.rdropWhile isBlank = cs ↔ ∀ c, cs.getLast? = some c → isBlank c = false := by
    rw [List.rdropWhile_eq_self_iff]
    cases cs using List.reverseRecOn <;> simp
  rw [← hfirst, ← hlast]
  change (cs.dropWhile isBlank).rdropWhile isBlank = cs ↔ _
  constructor
  · intro h
    -- nothing is left out in the first step, as nothing is left out in both
    have hfirst : cs.dropWhile isBlank = cs := by
      refine (List.dropWhile_suffix isBlank).eq_of_length_le ?_
      calc cs.length
          = ((cs.dropWhile isBlank).rdropWhile isBlank).length := by rw [h]
        _ ≤ (cs.dropWhile isBlank).length := (List.rdropWhile_prefix isBlank _).length_le
    rw [hfirst] at h
    exact ⟨hfirst, h⟩
  · rintro ⟨hfirst, hlast⟩
    rw [hfirst, hlast]

/-- **What trimming leaves alone** has no blank at its ends. -/
theorem trim_eq_self_iff {s : String} : trim s = s ↔ ¬HasBlankEnd s := by
  unfold trim HasBlankEnd
  rw [← String.toList_inj, String.toList_ofList, trimChars_eq_self_iff]
  simp

end Text

/-! ### Numbers -/

/-- **A cell writes a number within the limit**: it has decimal digits only, and their number is not
larger than the limit. -/
def InLimit (cell : String) : Prop :=
  (∀ c ∈ cell.toList, '0' ≤ c ∧ c ≤ '9') ∧ Text.digitsValue cell.toList ≤ 2147483647

/-- **Rounding does not matter for the limit**: a number is above it if and only if the nearest one
of 53 bits is. -/
theorem Whole.less_ofInt_iff (n : Nat) :
    (Whole.finite maxInteger).less (Whole.ofInt n) = true ↔ maxInteger < n := by
  by_cases hn : n < Nat.pow 2 53
  · rw [Whole.ofInt_eq_finite (n := n) (by simpa using hn)]
    simp [less]
  · have hlarge : maxInteger < n :=
      Nat.lt_of_lt_of_le (by decide) (Nat.not_lt.mp hn)
    have hnearest : maxInteger < Number.nearest n :=
      calc maxInteger
          < Number.nearest (maxInteger + 1) := by decide
        _ ≤ Number.nearest n := Number.nearest_mono hlarge
    have hpos : ¬((n : Int) < 0) := Int.not_lt.mpr (Int.natCast_nonneg n)
    unfold ofInt
    rw [Int.natAbs_natCast]
    dsimp only
    split_ifs
    · simp [less, hnearest, hlarge]
    · simp [less, hpos, hlarge]

/-! ### The rules of single cells -/

/-- A time is read as its stamp is. -/
lemma readTime_value (cell : String) : (readTime cell).value = Calendar.parseStamp cell := by
  unfold readTime
  split_ifs with hcell
  · rw [hcell]
    rfl
  · cases Calendar.parseStamp cell <;> rfl

/-- A time is refused if the cell is neither empty nor a stamp. -/
lemma readTime_error_iff (cell : String) :
    (readTime cell).error ≠ none ↔ cell ≠ "" ∧ Calendar.parseStamp cell = none := by
  unfold readTime
  split_ifs with hcell
  · simp [hcell, CellReading.empty]
  · cases Calendar.parseStamp cell <;> simp [hcell, CellReading.bad, CellReading.good]

/-- A cell of decimal digits writes a number within the limit if that is not above it. -/
lemma inLimit_iff {cell : String} :
    InLimit cell ↔ cell.toList.all Text.isDigit = true ∧
      ¬maxInteger < Text.digitsValue cell.toList := by
  unfold InLimit
  rw [List.all_eq_true, Nat.not_lt]
  simp [Text.isDigit, maxInteger]

/-- A number is read off digits that are within the limit. -/
lemma readNumber_value_iff {cell : String} {w : Whole} :
    (readNumber cell).value = some w ↔
      cell ≠ "" ∧ InLimit cell ∧ w = .finite (Text.digitsValue cell.toList) := by
  rw [inLimit_iff]
  unfold readNumber
  dsimp only
  split_ifs with hcell hdigits hlarge <;>
    simp [CellReading.empty, CellReading.bad, CellReading.good, *, eq_comm]

/-- A number is refused if the cell is neither empty nor within the limit. -/
lemma readNumber_error_iff (cell : String) :
    (readNumber cell).error ≠ none ↔ cell ≠ "" ∧ ¬InLimit cell := by
  rw [inLimit_iff]
  unfold readNumber
  dsimp only
  split_ifs with hcell hdigits hlarge <;>
    simp [CellReading.empty, CellReading.bad, CellReading.good, *]

/-- **A password is refused** for blanks around it, or for its length. -/
def RefusedPassword (cell : String) : Prop :=
  Text.HasBlankEnd cell ∨ 255 < Text.unitLength cell

/-- A password is refused where the rule finds something wrong with it. -/
lemma refusedPassword_iff {cell : String} :
    RefusedPassword cell ↔ cell ≠ Text.trim cell ∨ maxPasswordLength < Text.unitLength cell := by
  unfold RefusedPassword
  rw [ne_comm, ne_eq, Text.trim_eq_self_iff, not_not]
  rfl

/-- A password is read as it is written, unless it is refused. -/
lemma readPassword_value_iff {cell p : String} :
    (readPassword cell).value = some p ↔ cell ≠ "" ∧ ¬RefusedPassword cell ∧ p = cell := by
  rw [refusedPassword_iff]
  unfold readPassword
  split_ifs with hcell hpadded hlong
  · simp [CellReading.empty, hcell]
  · simp [CellReading.bad, hpadded]
  · simp [CellReading.bad, hlong]
  · simp [CellReading.good, hcell, hpadded, hlong, eq_comm]

/-- A password is refused if the cell is neither empty nor admitted by its rule. -/
lemma readPassword_error_iff (cell : String) :
    (readPassword cell).error ≠ none ↔ cell ≠ "" ∧ RefusedPassword cell := by
  rw [refusedPassword_iff]
  unfold readPassword
  split_ifs with hcell hpadded hlong
  · simp [CellReading.empty, hcell]
  · simp [CellReading.bad, hcell, hpadded]
  · simp [CellReading.bad, hcell, hlong]
  · simp [CellReading.good, hpadded, hlong]

/-- A password is asked for by `1`. -/
lemma readGenerate_value_iff (cell : String) :
    (readGenerate cell).value.getD false = true ↔ cell = "1" := by
  unfold readGenerate Cells.generateYes
  split_ifs with hyes hno <;> simp [CellReading.bad, CellReading.good, hyes]

/-- Whether to generate is refused for all but an empty cell, `0` and `1`. -/
lemma readGenerate_error_iff (cell : String) :
    (readGenerate cell).error ≠ none ↔ cell ≠ "" ∧ cell ≠ "0" ∧ cell ≠ "1" := by
  unfold readGenerate Cells.generateYes Cells.generateNo
  split_ifs with hyes hno
  · simp [CellReading.good, hyes]
  · simpa [CellReading.good] using fun hgiven hzero => absurd hno (by simp [hgiven, hzero])
  · rw [not_or] at hno
    simp [CellReading.bad, hyes, hno]

/-- The opening is after the closing if both times are given, and in that order. -/
lemma opensAfterClose_iff (timeOpen timeClose : Option Calendar.Instant) :
    opensAfterClose timeOpen timeClose = true ↔
      ∃ o c, timeOpen = some o ∧ timeClose = some c ∧ c < o := by
  cases timeOpen <;> cases timeClose <;> simp [opensAfterClose]

/-! ### Rows -/

/-- **What cells have to be validated with**: an error under the name of each rule that is violated,
and under no other name, and the values of the cells that are neither empty nor malformed. -/
structure Cells.Judged (c : Cells) (kind : SubjectKind) (resolves : Prop) (row : ValidatedRow) :
    Prop where
  subject : kind.idColumn ∈ row.errors.keys kind ↔ ¬resolves
  timeOpen : "timeopen" ∈ row.errors.keys kind ↔
    (c.timeOpen ≠ "" ∧ Calendar.parseStamp c.timeOpen = none) ∨
      ∃ opening closing, Calendar.parseStamp c.timeOpen = some opening ∧
        Calendar.parseStamp c.timeClose = some closing ∧ closing < opening
  timeClose : "timeclose" ∈ row.errors.keys kind ↔
    c.timeClose ≠ "" ∧ Calendar.parseStamp c.timeClose = none
  timeLimit : "timelimit" ∈ row.errors.keys kind ↔ c.timeLimit ≠ "" ∧ ¬InLimit c.timeLimit
  attempts : "attempts" ∈ row.errors.keys kind ↔ c.attempts ≠ "" ∧ ¬InLimit c.attempts
  password : "password" ∈ row.errors.keys kind ↔ c.password ≠ "" ∧ RefusedPassword c.password
  generate : "generate" ∈ row.errors.keys kind ↔
    c.generate ≠ "" ∧ c.generate ≠ "0" ∧ c.generate ≠ "1"
  others : ∀ name ∈ row.errors.keys kind, name = kind.idColumn ∨ name ∈ valueColumns
  opening : row.fields.timeOpen = Calendar.parseStamp c.timeOpen
  closing : row.fields.timeClose = Calendar.parseStamp c.timeClose
  limit : ∀ w, row.fields.timeLimit = some w ↔
    c.timeLimit ≠ "" ∧ InLimit c.timeLimit ∧ w = .finite (Text.digitsValue c.timeLimit.toList)
  allowed : ∀ w, row.fields.attempts = some w ↔
    c.attempts ≠ "" ∧ InLimit c.attempts ∧ w = .finite (Text.digitsValue c.attempts.toList)
  own : ∀ p, row.fields.password = some p ↔
    c.password ≠ "" ∧ ¬RefusedPassword c.password ∧ p = c.password
  asks : row.fields.generatePassword = true ↔ c.generate = "1"

/-- **The validated row of cells** has the errors and the values that it has to have. -/
lemma Site.validated_judged (s : Site) (kind : SubjectKind) (courseId : String) (c : Cells) :
    c.Judged kind (s.Resolves kind courseId c) (s.validated kind (.given courseId) c) := by
  obtain ⟨hsubject, hopen, hclose, hlimit, hattempts, hpassword, hgenerate⟩ :=
    FieldErrors.mem_keys_iff kind (s.validated kind (.given courseId) c).errors
  constructor
  case subject =>
    rw [hsubject, ← subjectReading_error_eq_none]
    rfl
  case timeOpen =>
    -- that the times are the wrong way round is told instead of what is wrong with the cell
    have herror : (s.validated kind (.given courseId) c).errors.timeOpen ≠ none ↔
        opensAfterClose (readTime c.timeOpen).value (readTime c.timeClose).value = true ∨
          (readTime c.timeOpen).error ≠ none := by
      change (if opensAfterClose (readTime c.timeOpen).value (readTime c.timeClose).value then
        some TimeError.opensAfterClose else (readTime c.timeOpen).error) ≠ none ↔ _
      split_ifs with hlate <;> simp [hlate]
    rw [hopen, herror, readTime_error_iff, opensAfterClose_iff, readTime_value, readTime_value,
      or_comm]
  case timeClose => exact hclose.trans (readTime_error_iff c.timeClose)
  case timeLimit => exact hlimit.trans (readNumber_error_iff c.timeLimit)
  case attempts => exact hattempts.trans (readNumber_error_iff c.attempts)
  case password => exact hpassword.trans (readPassword_error_iff c.password)
  case generate => exact hgenerate.trans (readGenerate_error_iff c.generate)
  case others =>
    intro name hname
    rcases FieldErrors.mem_keys.mp hname with h | h | h | h | h | h | h
    · exact .inl h.1
    all_goals exact .inr (by simp [valueColumns, h.1])
  case opening => exact readTime_value c.timeOpen
  case closing => exact readTime_value c.timeClose
  case limit => exact fun w => readNumber_value_iff
  case allowed => exact fun w => readNumber_value_iff
  case own => exact fun p => readPassword_value_iff
  case asks => exact readGenerate_value_iff c.generate

/-- **Validation reports exactly the rules that are violated.** Whatever the cells of a row hold and
whatever else is wrong with them, the row has an error under a name if and only if the rule of that
name is violated, and no other errors; its values are those of the cells that are neither empty nor
malformed, each by its own cell. Numbers of any length are judged by what they write: it is the same
to judge them by the nearest number of 53 bits. Without faults, cells are validated.

**Proof sketch.** The rules are functions of single cells, so that it is enough to say of each when
it gives an error and when it gives a value. Only the opening time has two rules. -/
theorem validate_judges (s : Site) (kind : SubjectKind) (courseId : String) (c : Cells) :
    (∀ row s', (validate kind (.given courseId) c).Returns s row s' →
      c.Judged kind (s.Resolves kind courseId c) row) ∧
    (∀ cell ∈ [c.timeLimit, c.attempts], (∀ ch ∈ cell.toList, '0' ≤ ch ∧ ch ≤ '9') →
      ((Whole.finite maxInteger).less (Whole.ofInt (Text.digitsValue cell.toList)) = true ↔
        ¬InLimit cell)) ∧
    (s.faults = [] → ∃ row s', (validate kind (.given courseId) c).Returns s row s') := by
  refine ⟨fun row s' hreturns => ?_, fun cell _ hdigits => ?_, fun hs => ?_⟩
  · obtain rfl := (validate_looks kind (.given courseId) c).returns hreturns
    exact s.validated_judged kind courseId c
  · have hlimit : InLimit cell ↔ Text.digitsValue cell.toList ≤ maxInteger :=
      ⟨fun h => h.2, fun h => ⟨hdigits, h⟩⟩
    rw [Whole.less_ofInt_iff, hlimit, Nat.not_le]
  · obtain ⟨s', hreturns, -⟩ := (validate_looks kind (.given courseId) c).quiet hs
    exact ⟨_, s', hreturns⟩

end QuizOverrides
