import Mathlib.Tactic.SplitIfs
import QuizOverrides.Proofs.Lookup

set_option autoImplicit false

/-!
# What a run lists

A run assesses the records of a file one after the other. Which row is listed for a record depends
on the tables of the site and on the password that the row is given, and on nothing else. A password
is drawn only for a row that asks for one and has none from an earlier run.

## Main definitions

* `QuizOverrides.Site.records` — the tables of a site, its counters, its clock and its settings.
* `QuizOverrides.Site.MayGive` — the passwords that a record may be given.
* `QuizOverrides.Site.listing` — the row that is listed for a record.
* `QuizOverrides.Site.Lists` — the rows that are listed for the records of a file.

## Main results

* `QuizOverrides.scanRecords_lists_take` — a scan lists the rows of the records it has come to.
* `QuizOverrides.scanRecords_lists` — a scan that nothing stops lists those of all of them.
* `QuizOverrides.Site.Lists.eq_of_pinned` — a later run with the passwords of an earlier one, over
  the same tables, lists the same rows.
-/

namespace QuizOverrides

open QuizOverrides.Action

/-- All of a site but its accesses and faults, its draws, its logs and its audit trail. -/
def Site.records (s : Site) : Site :=
  { s with accesses := [], faults := [], drawsMade := 0, logs := [], console := {}, audit := [] }

/-- What look-ups leave alone includes the records. -/
lemma Frames.records {α : Type} {x : StateM Site α} (h : Frames Site.still x) :
    Frames Site.records x :=
  h.comp Site.records

/-- The overrides and their count are records. -/
lemma Site.overrides_of_records {s s' : Site} (h : s'.records = s.records) :
    s'.overrides = s.overrides ∧ s'.overrideCount = s.overrideCount :=
  ⟨congr_of_mask Site.overrides h fun _ => rfl, congr_of_mask Site.overrideCount h fun _ => rfl⟩

/-- A line of the log is no record. -/
lemma logLine_frames (line : LogLine) : Frames Site.records (logLine line) := fun _ => rfl

/-! ### Passwords -/

/-- The password of the draws that a site makes from its `k`-th on. -/
def Site.passwordFrom (s : Site) (k : Nat) : String :=
  Password.ofDraws ((List.range s.options.passwordLength.toNat).map fun i =>
    (drawnNumber s.drawSource (k + i)).tmod Password.bound)

/-- A draw takes the next number of the source and counts itself. -/
lemma runOn_draw (bound : Nat) (s : Site) :
    runOn (draw bound) s =
      ((drawnNumber s.drawSource s.drawsMade).tmod bound,
        { s with drawsMade := s.drawsMade + 1 }) := rfl

/-- Draws are made one after the other, and nothing else is done. -/
lemma runOn_drawMany (n : Nat) (s : Site) :
    runOn (Password.drawMany n) s =
      ((List.range n).map fun i => (drawnNumber s.drawSource (s.drawsMade + i)).tmod Password.bound,
        { s with drawsMade := s.drawsMade + n }) := by
  induction n generalizing s with
  | zero => rfl
  | succ n ih =>
    simp only [Password.drawMany, runOn_bind, runOn_draw, ih, runOn_pure]
    rw [List.range_succ_eq_map]
    simp [Nat.add_assoc, Nat.add_comm 1]

/-- Generating a password makes as many draws as the password has letters. -/
lemma runOn_generate (s : Site) :
    runOn (Password.generate s.options.passwordLength) s =
      (s.passwordFrom s.drawsMade,
        { s with drawsMade := s.drawsMade + s.options.passwordLength.toNat }) := by
  simp only [Password.generate, runOn_map, runOn_drawMany]
  rfl

/-- **The passwords that a row may be given**: one of its own, the one of an earlier run, or, if the
row asks for a password and there is none, a generated one. -/
def Site.MayGive (s : Site) (row : ValidatedRow) (pinned password : Option String) : Prop :=
  if row.asksPassword then
    match pinned with
    | some p => password = some p
    | none => ∃ k, password = some (s.passwordFrom k)
  else password = row.fields.password

/-- Which passwords a row may get is told by the records. -/
lemma Site.mayGive_congr {s s' : Site} (h : s'.records = s.records) : s'.MayGive = s.MayGive := by
  change s'.records.MayGive = s.records.MayGive
  rw [h]

/-- The password of a row is one that it may get. -/
lemma rowPassword_gives (row : ValidatedRow) (pinned : Option String) (s : Site) :
    s.MayGive row pinned (runOn (rowPassword row pinned) s).1 := by
  unfold Site.MayGive rowPassword
  cases row.asksPassword with
  | false => rfl
  | true =>
    cases pinned with
    | some p => rfl
    | none =>
      refine ⟨s.drawsMade, ?_⟩
      simp only [if_true, runOn_bind, runOn_get, runOn_generate]
      rfl

/-- Giving a password changes nothing but the number of draws. -/
lemma rowPassword_frames (row : ValidatedRow) (pinned : Option String) :
    Frames (fun s : Site => { s with drawsMade := 0 }) (rowPassword row pinned) := by
  intro s
  unfold rowPassword
  cases row.asksPassword with
  | false => rfl
  | true =>
    cases pinned with
    | some p => rfl
    | none =>
      simp only [if_true, runOn_bind, runOn_get, runOn_generate]
      rfl

/-! ### One record -/

/-- The override that a validated row is to be written as. -/
def RunSettings.draftData (st : RunSettings) (row : ValidatedRow) (password : Option String) :
    OverrideData :=
  let data := OverrideData.forSubject st.quiz.id st.mode.lookupKind row.fields.subjectId
    (row.fields.values password)
  match st.mode with
  | .kind _ => data
  | .other _ => data.withoutSubject

/-- The draft of a row has the values of its fields, with the given password. -/
@[simp] lemma RunSettings.draftData_values (st : RunSettings) (row : ValidatedRow)
    (password : Option String) :
    (st.draftData row password).values = row.fields.values password := by
  rcases st with ⟨⟨_ | _⟩ | given, quiz, pinned⟩ <;> rfl

/-- The draft of a row is one of the quiz of the run. -/
@[simp] lemma RunSettings.draftData_quizId (st : RunSettings) (row : ValidatedRow)
    (password : Option String) : (st.draftData row password).quizId = st.quiz.id := by
  rcases st with ⟨⟨_ | _⟩ | given, quiz, pinned⟩ <;> rfl

/-- What is listed for a record, by its validated row, the override that there is and the
password. -/
def RunSettings.listed (st : RunSettings) (number : Nat) (cells : Cells) (row : ValidatedRow)
    (existing password : Option String) : Option ImportRow :=
  let action := OverrideAction.decide cells.isBlank (given? existing).isSome
  if action = .skip then none
  else
    some
      { number := number
        action := action
        draft := ⟨existing, st.draftData row password⟩
        cells := cells
        subjectId := row.fields.subjectId
        subjectName := row.fields.subjectName
        generated := row.asksPassword
        errors := row.errors }

/-- The validated row of a record. -/
def Site.rowOf (s : Site) (st : RunSettings) (record : List String) : ValidatedRow :=
  s.validated st.mode.lookupKind st.quiz.courseId (.ofRecord record)

/-- The identifier of the override that a record is about. -/
def Site.ownedBy (s : Site) (st : RunSettings) (record : List String) : Option String :=
  s.existing? st.quiz.id st.mode.lookupKind (s.rowOf st record).owner

/-- **The row that is listed for a record**, if one is. -/
def Site.listing (s : Site) (st : RunSettings) (number : Nat) (record : List String)
    (password : Option String) : Option ImportRow :=
  st.listed number (.ofRecord record) (s.rowOf st record) (s.ownedBy st record) password

/-- The look-ups of an assessment: the validated row and the override that it is about. -/
def RunSettings.lookUp (st : RunSettings) (record : List String) :
    Action StorageError (ValidatedRow × Option String) := do
  let row ← validate st.mode.lookupKind st.quiz.courseId (.ofRecord record)
  let existing ← existingId? st.quiz.id st.mode.lookupKind row.owner
  pure (row, existing)

/-- Looking up a record sees its row and the override it is about. -/
lemma RunSettings.lookUp_looks (st : RunSettings) (record : List String) :
    (st.lookUp record).Looks fun s => (s.rowOf st record, s.ownedBy st record) :=
  (validate_looks _ _ _).bind fun row => (existingId?_looks _ _ row.owner).map fun e => (row, e)

/-- The assessment of a record: the look-ups, and then a password. -/
lemma assessRecord_eq (st : RunSettings) (number : Nat) (record : List String) :
    assessRecord st number record = (do
      let found ← st.lookUp record
      let password ← rowPassword found.1 (st.pinned.lookup number)
      pure (st.listed number (.ofRecord record) found.1 found.2 password)) := by
  unfold assessRecord validateIn reconcileIn reconcileBlank RunSettings.lookUp RunSettings.listed
    RunSettings.draftData
  rcases st with ⟨mode | given, quiz, pinned⟩ <;>
    simp only [bind_assoc, pure_bind] <;>
    refine bind_congr fun row => bind_congr fun existing => bind_congr fun password => ?_ <;>
    split <;> rfl

/-- Assessing a record changes no record of the site. -/
lemma assessRecord_frames (st : RunSettings) (number : Nat) (record : List String) :
    Frames Site.records (assessRecord st number record).run := by
  rw [assessRecord_eq]
  exact .run_bind (st.lookUp_looks record).frames.records fun found =>
    .run_bind (.lift ((rowPassword_frames _ _).comp Site.records)) fun _ => .pure _

/-- What is listed for a record is the row of the record with a password that it may be given. -/
lemma assessRecord_returns {st : RunSettings} {number : Nat} {record : List String} {s s' : Site}
    {r : Option ImportRow} (h : (assessRecord st number record).Returns s r s') :
    ∃ password, s.MayGive (s.rowOf st record) (st.pinned.lookup number) password ∧
      r = s.listing st number record password := by
  rw [assessRecord_eq] at h
  obtain ⟨found, s₁, hfound, h⟩ := returns_bind.mp h
  obtain ⟨password, s₂, hpassword, h⟩ := returns_bind.mp h
  obtain ⟨rfl, rfl⟩ := returns_pure.mp h
  have hrecords := (st.lookUp_looks record).frames.records.returns hfound
  obtain rfl := (st.lookUp_looks record).returns hfound
  refine ⟨password, ?_, by unfold Site.listing; dsimp only⟩
  have hgives := rowPassword_gives (s.rowOf st record) (st.pinned.lookup number) s₁
  rw [returns_lift.mp hpassword] at hgives
  rwa [Site.mayGive_congr hrecords] at hgives

/-- Without faults a record is assessed. -/
lemma assessRecord_quiet (st : RunSettings) (number : Nat) (record : List String) {s : Site}
    (hs : s.faults = []) :
    ∃ r s', (assessRecord st number record).Returns s r s' ∧ s'.faults = [] := by
  obtain ⟨s₁, hfound, hs₁⟩ := (st.lookUp_looks record).quiet hs
  rw [assessRecord_eq]
  refine ⟨_, _, returns_bind.mpr ⟨_, s₁, hfound, returns_bind.mpr
    ⟨_, _, returns_lift.mpr rfl, returns_pure.mpr ⟨rfl, rfl⟩⟩⟩, ?_⟩
  exact ((rowPassword_frames _ _).comp Site.faults s₁).trans hs₁

/-! ### The records of a file -/

/-- **The rows that a site lists** for records, numbered from the one after `number` on. -/
inductive Site.Lists (s : Site) (st : RunSettings) :
    Nat → List (List String) → List ImportRow → Prop where
  | nil (number : Nat) : Lists s st number [] []
  | cons {number : Nat} {record : List String} {rest : List (List String)} {rows : List ImportRow}
      {password : Option String}
      (hpassword : s.MayGive (s.rowOf st record) (st.pinned.lookup (number + 1)) password)
      (hrest : Lists s st (number + 1) rest rows) :
      Lists s st number (record :: rest)
        ((s.listing st (number + 1) record password).toList ++ rows)

/-- What is listed depends on the records of the site only. -/
lemma Site.listing_congr {s s' : Site} (h : s'.records = s.records) (st : RunSettings) :
    s'.rowOf st = s.rowOf st ∧ s'.ownedBy st = s.ownedBy st ∧ s'.listing st = s.listing st := by
  change s'.records.rowOf st = s.records.rowOf st ∧ s'.records.ownedBy st = s.records.ownedBy st ∧
    s'.records.listing st = s.records.listing st
  rw [h]
  exact ⟨rfl, rfl, rfl⟩

/-- What a scan lists is told by the records of the site. -/
lemma Site.Lists.congr {s s' : Site} {st : RunSettings} {number : Nat}
    {records : List (List String)} {rows : List ImportRow} (h : s'.records = s.records)
    (hl : s'.Lists st number records rows) : s.Lists st number records rows := by
  obtain ⟨hrow, -, hlisting⟩ := listing_congr h st
  induction hl with
  | nil => exact .nil _
  | cons hpassword _ ih =>
    rw [mayGive_congr h, hrow] at hpassword
    rw [hlisting]
    exact .cons hpassword ih

/-- A scan leaves alone what the assessments of its records do. -/
lemma scanRecords_frames_of {γ : Type} {π : Site → γ} {st : RunSettings} {number : Nat}
    {records : List (List String)}
    (h : ∀ (i : Nat) (record : List String), records[i]? = some record →
      Frames π (assessRecord st (number + i + 1) record).run) :
    Frames π (scanRecords st number records) := by
  induction records generalizing number with
  | nil => exact .pure _
  | cons record rest ih =>
    have ih : Frames π (scanRecords st (number + 1) rest) := by
      refine ih fun i record' hi => ?_
      rw [show number + 1 + i + 1 = number + (i + 1) + 1 by omega]
      exact h (i + 1) record' (by simpa using hi)
    unfold scanRecords
    refine .bind (h 0 record rfl) fun r => ?_
    rcases r with e | _ | row
    · exact .pure _
    · exact ih
    · exact .bind ih fun _ => .pure _

/-- A scan changes no record of the site. -/
lemma scanRecords_frames (st : RunSettings) (number : Nat) (records : List (List String)) :
    Frames Site.records (scanRecords st number records) :=
  scanRecords_frames_of fun i record _ => assessRecord_frames st (number + i + 1) record

/-- **A scan lists the rows of the records it has come to**, and has come to all of them if nothing
has stopped it. -/
theorem scanRecords_lists_take (st : RunSettings) (number : Nat) (records : List (List String))
    (s : Site) :
    ∃ n, s.Lists st number (records.take n) (runOn (scanRecords st number records) s).1.1 ∧
      ((runOn (scanRecords st number records) s).1.2 = none → records.take n = records) := by
  induction records generalizing number s with
  | nil => exact ⟨0, .nil _, fun _ => rfl⟩
  | cons record rest ih =>
    unfold scanRecords
    rw [runOn_bind]
    rcases hrun : runOn (assessRecord st (number + 1) record).run s with ⟨e | r, s₁⟩
    · exact ⟨0, .nil _, fun hstopped => absurd hstopped (Option.some_ne_none e)⟩
    · have hrecords := (assessRecord_frames st _ record).returns hrun
      obtain ⟨password, hpassword, hr⟩ := assessRecord_returns hrun
      obtain ⟨n, hrest, hall⟩ := ih (number + 1) s₁
      have hlists := Site.Lists.cons hpassword (hrest.congr hrecords)
      rw [← hr] at hlists
      refine ⟨n + 1, ?_⟩
      rw [List.take_succ_cons]
      rcases r with _ | row
      · exact ⟨hlists, fun hstopped => congrArg (record :: ·) (hall hstopped)⟩
      · exact ⟨hlists, fun hstopped => congrArg (record :: ·) (hall hstopped)⟩

/-- **A scan that nothing stops** lists the rows of its records. -/
theorem scanRecords_lists (st : RunSettings) (number : Nat) (records : List (List String))
    {s s' : Site} {rows : List ImportRow}
    (h : runOn (scanRecords st number records) s = ((rows, none), s')) :
    s.Lists st number records rows := by
  obtain ⟨n, hlists, hall⟩ := scanRecords_lists_take st number records s
  rw [h] at hlists hall
  rwa [hall rfl] at hlists

/-- Without faults nothing stops a scan. -/
lemma scanRecords_quiet (st : RunSettings) (number : Nat) (records : List (List String))
    {s : Site} (hs : s.faults = []) :
    ∃ rows s', runOn (scanRecords st number records) s = ((rows, none), s') ∧
      s'.faults = [] := by
  induction records generalizing number s with
  | nil => exact ⟨[], s, rfl, hs⟩
  | cons record rest ih =>
    obtain ⟨r, s₁, hrun, hs₁⟩ := assessRecord_quiet st (number + 1) record hs
    obtain ⟨rows, s₂, hrest, hs₂⟩ := ih (number + 1) hs₁
    unfold scanRecords
    rw [runOn_bind, hrun]
    cases r with
    | none => exact ⟨rows, s₂, hrest, hs₂⟩
    | some row =>
      refine ⟨row :: rows, s₂, ?_, hs₂⟩
      simp only [runOn_bind, hrest, runOn_pure]

/-! ### Listed rows -/

/-- When a row is listed for a record, and which. -/
lemma Site.listing_eq_some {s : Site} {st : RunSettings} {number : Nat} {record : List String}
    {password : Option String} {row : ImportRow} :
    s.listing st number record password = some row ↔
      OverrideAction.decide (Cells.ofRecord record).isBlank
          (given? (s.ownedBy st record)).isSome ≠ .skip ∧
        { number := number
          action := .decide (Cells.ofRecord record).isBlank
            (given? (s.ownedBy st record)).isSome
          draft := ⟨s.ownedBy st record, st.draftData (s.rowOf st record) password⟩
          cells := .ofRecord record
          subjectId := (s.rowOf st record).fields.subjectId
          subjectName := (s.rowOf st record).fields.subjectName
          generated := (s.rowOf st record).asksPassword
          errors := (s.rowOf st record).errors } = row := by
  unfold listing RunSettings.listed
  dsimp only
  split <;> simp [*]

/-- A record asks for a password by its last cell. -/
lemma Site.asksPassword_rowOf {s : Site} {st : RunSettings} {record : List String} :
    (s.rowOf st record).asksPassword = true ↔
      (Cells.ofRecord record).generate = Cells.generateYes := by
  change ((readGenerate (Cells.ofRecord record).generate).value.getD false &&
    (readGenerate (Cells.ofRecord record).generate).error.isNone) = true ↔ _
  unfold readGenerate
  split_ifs with hyes hno <;>
    simp [CellReading.good, CellReading.bad, hyes]

/-- A record that asks for a password is not blank. -/
lemma Site.not_blank_of_asks {s : Site} {st : RunSettings} {record : List String}
    (h : (s.rowOf st record).asksPassword = true) : (Cells.ofRecord record).isBlank = false := by
  unfold Cells.isBlank
  rw [asksPassword_rowOf.mp h]
  simp [Cells.generateYes, Cells.generateNo]

/-- What becomes of a record. -/
def Site.actionOf (s : Site) (st : RunSettings) (record : List String) : OverrideAction :=
  .decide (Cells.ofRecord record).isBlank (given? (s.ownedBy st record)).isSome

/-- A record is listed unless it is skipped. -/
lemma Site.exists_listing {s : Site} {st : RunSettings} {record : List String}
    (h : s.actionOf st record ≠ .skip) (number : Nat) (password : Option String) :
    ∃ row, s.listing st number record password = some row :=
  ⟨_, listing_eq_some.mpr ⟨h, rfl⟩⟩

/-- A record that is not blank is not skipped. -/
lemma Site.actionOf_of_not_blank {s : Site} {st : RunSettings} {record : List String}
    (h : (Cells.ofRecord record).isBlank = false) : s.actionOf st record ≠ .skip := by
  unfold actionOf
  rw [h]
  cases (given? (s.ownedBy st record)).isSome <;> decide

/-- **A record that asks for a password is listed.** -/
lemma Site.listing_of_asks {s : Site} {st : RunSettings} {number : Nat} {record : List String}
    {password : Option String} (h : (s.rowOf st record).asksPassword = true) :
    ∃ row, s.listing st number record password = some row :=
  exists_listing (actionOf_of_not_blank (not_blank_of_asks h)) number password

namespace Site.Lists

variable {s : Site} {st : RunSettings} {number : Nat} {records : List (List String)}
  {rows : List ImportRow}

/-- **Every listed row is that of a record**, by the number that it has. -/
lemma exists_record (hl : s.Lists st number records rows) {row : ImportRow} (hrow : row ∈ rows) :
    ∃ record password, (number < row.number ∧ records[row.number - number - 1]? = some record) ∧
      s.MayGive (s.rowOf st record) (st.pinned.lookup row.number) password ∧
      s.listing st row.number record password = some row := by
  induction hl with
  | nil => simp at hrow
  | @cons n record rest rows password hpassword _ ih =>
    rcases List.mem_append.mp hrow with h | h
    · have hlisting := Option.mem_toList.mp h
      have hnumber : row.number = n + 1 := by
        obtain ⟨-, rfl⟩ := listing_eq_some.mp hlisting
        rfl
      rw [hnumber]
      exact ⟨record, password, ⟨by omega, by simp⟩, hpassword, hlisting⟩
    · obtain ⟨record', password', ⟨hlt, hrecord⟩, hgive, hlisting⟩ := ih h
      refine ⟨record', password', ⟨by omega, ?_⟩, hgive, hlisting⟩
      rw [show row.number - n - 1 = row.number - (n + 1) - 1 + 1 by omega]
      exact hrecord

/-- Listed rows are numbered in order. -/
lemma sorted (hl : s.Lists st number records rows) :
    rows.Pairwise fun r r' => r.number < r'.number := by
  induction hl with
  | nil => exact .nil
  | @cons n record rest rows password _ hrest ih =>
    refine List.pairwise_append.mpr ⟨?_, ih, fun row hrow row' hrow' => ?_⟩
    · cases s.listing st (n + 1) record password <;> simp
    · obtain ⟨-, -, ⟨hlt, -⟩, -⟩ := hrest.exists_record hrow'
      obtain ⟨-, rfl⟩ := listing_eq_some.mp (Option.mem_toList.mp hrow)
      exact hlt

/-- A row generates a password only for a record that asks for one. -/
lemma generate_of_generated (hl : s.Lists st number records rows) {row : ImportRow}
    (hrow : row ∈ rows) (hgenerated : row.generated = true) :
    row.cells.generate = Cells.generateYes := by
  obtain ⟨record, password, -, -, hlisting⟩ := hl.exists_record hrow
  generalize row.number = n at hlisting
  obtain ⟨-, rfl⟩ := listing_eq_some.mp hlisting
  exact asksPassword_rowOf.mp hgenerated

/-- **Every record that is not skipped has a row**, by its place. -/
lemma exists_row (hl : s.Lists st number records rows) {i : Nat} {record : List String}
    (hi : records[i]? = some record) (haction : s.actionOf st record ≠ .skip) :
    ∃ row ∈ rows, ∃ password, row.number = number + i + 1 ∧
      s.MayGive (s.rowOf st record) (st.pinned.lookup row.number) password ∧
      s.listing st row.number record password = some row := by
  induction hl generalizing i with
  | nil => simp at hi
  | @cons n record' rest rows password hpassword _ ih =>
    cases i with
    | zero =>
      obtain rfl : record' = record := by simpa using hi
      obtain ⟨row, hrow⟩ := exists_listing haction (n + 1) password
      have hnumber : row.number = n + 1 := by
        obtain ⟨-, rfl⟩ := listing_eq_some.mp hrow
        rfl
      refine ⟨row, List.mem_append_left _ (Option.mem_toList.mpr hrow), password, hnumber, ?_⟩
      rw [hnumber]
      exact ⟨hpassword, hrow⟩
    | succ i =>
      obtain ⟨row, hrow, password', hnumber, h⟩ := ih (by simpa using hi)
      exact ⟨row, List.mem_append_right _ hrow, password', by omega, h⟩

/-- A record that asks for a password has a row, by its place, and the row has a password. -/
lemma exists_row_of_asks (hl : s.Lists st number records rows) {i : Nat} {record : List String}
    (hi : records[i]? = some record) (hasks : (s.rowOf st record).asksPassword = true) :
    ∃ row ∈ rows, row.number = number + i + 1 ∧ row.generated = true := by
  obtain ⟨row, hrow, password, hnumber, -, hlisting⟩ :=
    hl.exists_row hi (actionOf_of_not_blank (not_blank_of_asks hasks))
  refine ⟨row, hrow, hnumber, ?_⟩
  generalize row.number = n at hlisting
  obtain ⟨-, rfl⟩ := listing_eq_some.mp hlisting
  exact hasks

/-- **A later run with the passwords of an earlier one**, over the same tables, lists the same
rows. -/
theorem eq_of_pinned {t : Site} {later : RowPasswords} {rows' : List ImportRow}
    (hl : s.Lists { st with pinned := [] } number records rows)
    (hrow : t.rowOf st = s.rowOf st) (howned : t.ownedBy st = s.ownedBy st)
    (hlater : ∀ row ∈ rows, row.generated = true →
      later.lookup row.number = row.draft.data.values.password)
    (hl' : t.Lists { st with pinned := later } number records rows') : rows' = rows := by
  induction hl generalizing rows' with
  | nil => cases hl'; rfl
  | @cons n record rest rows password hpassword _ ih =>
    cases hl' with
    | @cons _ _ _ _ password' hpassword' hrest' =>
      have hlisting : t.listing { st with pinned := later } (n + 1) record =
          s.listing { st with pinned := [] } (n + 1) record := by
        funext p
        change st.listed (n + 1) _ (t.rowOf st record) (t.ownedBy st record) p =
          st.listed (n + 1) _ (s.rowOf st record) (s.ownedBy st record) p
        rw [hrow, howned]
      -- a record that asks for a password is listed, and its row has been given the pinned one
      have hpasswords : password' = password := by
        have hgives := hpassword'
        change t.MayGive (t.rowOf st record) (later.lookup (n + 1)) password' at hgives
        change s.MayGive (s.rowOf st record) none password at hpassword
        rw [hrow] at hgives
        unfold MayGive at hgives hpassword
        split_ifs at hgives hpassword with hasks
        · obtain ⟨k, rfl⟩ := hpassword
          obtain ⟨row, hmem⟩ : ∃ row, s.listing { st with pinned := [] } (n + 1) record
              (some (s.passwordFrom k)) = some row := listing_of_asks hasks
          have hpinned := hlater row (List.mem_append_left _ (Option.mem_toList.mpr hmem))
          obtain ⟨-, rfl⟩ := listing_eq_some.mp hmem
          rw [hpinned hasks] at hgives
          simpa [ParsedFields.values] using hgives
        · rw [hgives, hpassword]
      rw [hlisting, hpasswords,
        ih (fun row hmem => hlater row (List.mem_append_right _ hmem)) hrest']

end Site.Lists

end QuizOverrides
