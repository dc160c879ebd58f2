import QuizOverrides.Proofs.Faults
import QuizOverrides.Proofs.Run

set_option autoImplicit false

/-!
# The accesses of a run

The assessment of a record looks up its subject and the override of the subject. Which tables this
takes depends on the record and on the tables of the site, not on the records before it. So it
depends on the records of a file alone, and not on their order, whether storage stops a run.

## Main definitions

* `QuizOverrides.Site.accessesOf` — the accesses that the assessment of a record makes.
* `QuizOverrides.Site.Answers` — no access that the assessment of records makes is struck.

## Main results

* `QuizOverrides.assessRecord_accesses` — the assessment of a record makes them.
* `QuizOverrides.scanRecords_accesses` — a scan makes those of its records.
* `QuizOverrides.ImportRun.processIn_wears` — processing adds no fault.
-/

namespace QuizOverrides

open QuizOverrides.Action Text

/-! ### One record -/

/-- The table of the subjects of a kind. -/
def SubjectKind.table : SubjectKind → Table
  | .user => .users
  | .group => .groups

/-- The accesses that the search for a subject makes: one by an identifier that can have been
issued, or one by a number or a name. -/
def subjectAccesses (kind : SubjectKind) (id number name : String) : List (Table × Access) :=
  if id ≠ "" then if Uuid.isIssued id then [(kind.table, .findOne)] else []
  else if number ≠ "" ∨ name ≠ "" then [(kind.table, .find)]
  else []

/-- A subject is looked for by its id if that can be one. -/
lemma findSubject?_accesses (kind : SubjectKind) (courseId : Field String) (id : String) :
    (findSubject? kind courseId id).Accesses
      fun _ => if Uuid.isIssued id then [(kind.table, .findOne)] else [] := by
  unfold findSubject? Directory.findUser? Directory.findGroup?
  by_cases h : Uuid.isIssued id = true
  · simp only [if_pos h]
    cases kind <;> exact Accesses.access_read _ _ _
  · simp only [if_neg h]
    cases kind <;> exact Accesses.pure none

/-- A subject is looked up by number or name with one access. -/
lemma lookupSubject_accesses (kind : SubjectKind) (courseId : Field String) {c : SubjectCriteria}
    (h : c.idNumber.isGiven = true ∨ c.name.isGiven = true) :
    (lookupSubject kind courseId c).Accesses fun _ => [(kind.table, .find)] := by
  unfold lookupSubject Directory.lookupUser Directory.lookupGroup
  by_cases hnumber : c.idNumber.isGiven = true
  · simp only [if_pos hnumber]
    cases kind <;> exact Accesses.access_read _ _ _
  · have hname := h.resolve_left hnumber
    simp only [if_neg hnumber, if_pos hname]
    cases kind <;> exact Accesses.access_read _ _ _

/-- The accesses that resolve the names of a row. -/
lemma resolveNamed_accesses (kind : SubjectKind) (courseId : Field String)
    (id number name : String) :
    (resolveNamed kind courseId id number name).Accesses
      fun _ => subjectAccesses kind id number name := by
  unfold resolveNamed subjectAccesses
  by_cases hid : id ≠ ""
  · simp only [if_pos hid]
    exact (findSubject?_accesses kind courseId id).map _
  · simp only [if_neg hid]
    by_cases hnumber : number ≠ ""
    · simp only [if_pos hnumber, if_pos (Or.inl hnumber : number ≠ "" ∨ name ≠ "")]
      exact (lookupSubject_accesses kind courseId (.inl (by simpa [Field.isGiven]))).map _
    · simp only [if_neg hnumber]
      by_cases hname : name ≠ ""
      · simp only [if_pos hname, if_pos (Or.inr hname : number ≠ "" ∨ name ≠ "")]
        exact (lookupSubject_accesses kind courseId (.inr (by simpa [Field.isGiven]))).map _
      · simp only [if_neg hname, if_neg (not_or_intro hnumber hname)]
        exact Accesses.pure _

/-- The override of a subject is looked for if there is a subject. -/
lemma existingId?_accesses (quizId : Field String) (kind : SubjectKind) (subject : Option String) :
    (existingId? quizId kind subject).Accesses
      fun _ => if (given? subject).isSome then [(.overrides, .findOne)] else [] := by
  unfold existingId?
  cases given? subject with
  | none => exact Accesses.pure none
  | some x =>
    have hget : (Overrides.get? (.forSubject quizId kind x)).Accesses
        fun _ => [(.overrides, .findOne)] :=
      Accesses.access_read _ _ _
    exact hget.map _

/-- **The accesses that the assessment of a record makes.** -/
def Site.accessesOf (s : Site) (st : RunSettings) (record : List String) :
    List (Table × Access) :=
  let cells := Cells.ofRecord record
  subjectAccesses st.mode.lookupKind (trim cells.subjectId) (trim cells.subjectIdNumber)
      (trim cells.subjectName) ++
    if (given? (s.rowOf st record).owner).isSome then [(.overrides, .findOne)] else []

/-- These depend on the tables of the site only. -/
lemma Site.accessesOf_congr {s s' : Site} (h : s'.records = s.records) (st : RunSettings) :
    s'.accessesOf st = s.accessesOf st := by
  unfold accessesOf
  rw [(listing_congr h st).1]

/-- The accesses of a record are those of its subject and of its override. -/
lemma RunSettings.lookUp_accesses (st : RunSettings) (record : List String) :
    (st.lookUp record).Accesses fun s => s.accessesOf st record := by
  have hvalidate : (validate st.mode.lookupKind st.quiz.courseId (.ofRecord record)).Accesses _ :=
    (resolveNamed_accesses st.mode.lookupKind st.quiz.courseId _ _ _).map _
  have howner (row : ValidatedRow) :
      (do
        let existing ← existingId? st.quiz.id st.mode.lookupKind row.owner
        pure (row, existing) : Action StorageError (ValidatedRow × Option String)).Accesses
        fun _ => if (given? row.owner).isSome then [(.overrides, .findOne)] else [] :=
    (existingId?_accesses st.quiz.id st.mode.lookupKind row.owner).map _
  have hlooks := validate_looks st.mode.lookupKind st.quiz.courseId (.ofRecord record)
  have hboth := hvalidate.bind hlooks howner
  unfold RunSettings.lookUp Site.accessesOf Site.rowOf
  exact hboth

/-- **The assessment of a record** makes these accesses and no others. -/
theorem assessRecord_accesses (st : RunSettings) (number : Nat) (record : List String) :
    (assessRecord st number record).Accesses fun s => s.accessesOf st record := by
  -- what follows the look-ups neither makes an access nor throws
  have hrun (s : Site) :
      (runOn (assessRecord st number record).run s).2.faults =
          (runOn (st.lookUp record).run s).2.faults ∧
        (runOn (assessRecord st number record).run s).1.isOk =
          (runOn (st.lookUp record).run s).1.isOk := by
    rw [assessRecord_eq, runOn_run_bind]
    rcases runOn (st.lookUp record).run s with ⟨e | found, s₁⟩
    · exact ⟨rfl, rfl⟩
    · exact ⟨(rowPassword_frames _ _).comp Site.faults s₁, rfl⟩
  exact ⟨fun s => (hrun s).1.trans ((st.lookUp_accesses record).faults s),
    fun s => (hrun s).2.trans ((st.lookUp_accesses record).isOk s)⟩

/-! ### The records of a file -/

/-- **A scan makes the accesses of its records**, one record after the other, and storage stops it
if one of them is struck. -/
theorem scanRecords_accesses (st : RunSettings) (number : Nat) (records : List (List String))
    (s : Site) :
    (runOn (scanRecords st number records) s).2.faults =
        (strikes (records.flatMap (s.accessesOf st)) s.faults).2 ∧
      (runOn (scanRecords st number records) s).1.2.isNone =
        (strikes (records.flatMap (s.accessesOf st)) s.faults).1.isNone := by
  induction records generalizing number s with
  | nil => exact ⟨rfl, rfl⟩
  | cons record rest ih =>
    have hfaults := (assessRecord_accesses st (number + 1) record).faults s
    have hok := (assessRecord_accesses st (number + 1) record).isOk s
    have hrecords := assessRecord_frames st (number + 1) record s
    unfold scanRecords
    rw [runOn_bind, List.flatMap_cons, strikes_append]
    rcases hrun : runOn (assessRecord st (number + 1) record).run s with ⟨e | r, s₁⟩ <;>
      rw [hrun] at hfaults hok hrecords <;>
      rcases hstrikes : strikes (s.accessesOf st record) s.faults with ⟨_ | e', left⟩ <;>
      rw [hstrikes] at hfaults hok
    · simp [Except.isOk, Except.toBool] at hok
    · exact ⟨hfaults, rfl⟩
    · obtain rfl : s₁.faults = left := hfaults
      have ih := ih (number + 1) s₁
      rw [Site.accessesOf_congr hrecords] at ih
      cases r with
      | none => exact ih
      | some row => exact ih
    · simp [Except.isOk, Except.toBool] at hok

/-- **Storage answers the look-ups of a run**: no fault strikes an access that the assessment of one
of the records makes. Faults that wait for other accesses do not matter. -/
def Site.Answers (s : Site) (st : RunSettings) (records : List (List String)) : Prop :=
  (strikes (records.flatMap (s.accessesOf st)) s.faults).1 = none

/-- A scan is not stopped if storage answers its look-ups. -/
lemma scanRecords_of_answers {s : Site} {st : RunSettings} {records : List (List String)}
    (h : s.Answers st records) (number : Nat) :
    ∃ rows s', runOn (scanRecords st number records) s = ((rows, none), s') := by
  have hstopped := (scanRecords_accesses st number records s).2
  rw [show (strikes (records.flatMap (s.accessesOf st)) s.faults).1 = none from h] at hstopped
  rcases hscan : runOn (scanRecords st number records) s with ⟨⟨rows, _ | e⟩, s'⟩
  · exact ⟨rows, s', rfl⟩
  · simp [hscan] at hstopped

/-- A scan adds no fault. -/
lemma scanRecords_wears (st : RunSettings) (number : Nat) (records : List (List String)) :
    Wears (scanRecords st number records) := by
  intro s
  unfold Site.Wears
  rw [(scanRecords_accesses st number records s).1]
  exact worn_strikes _ _

namespace ImportRun

/-- A run whose header is accepted is not stopped if storage answers its look-ups. -/
lemma process_of_answers (run : ImportRun) {s : Site}
    (hheader : checkHeader run.settings.mode run.table.columns = none)
    (h : s.Answers run.settings run.table.records) :
    ∃ run' s', runOn run.process s = ((.ok true, run'), s') := by
  obtain ⟨rows, s₁, hscan⟩ := scanRecords_of_answers h 0
  obtain ⟨run', s', hrun, -⟩ := process_of_scan hheader hscan
  exact ⟨run', s', hrun⟩

/-- Processing adds no fault. -/
lemma process_wears (run : ImportRun) : Wears run.process := by
  unfold process
  dsimp only
  split
  · exact .bind (.of_frames fun _ => rfl) fun _ => .of_frames (.pure _)
  · refine .bind (scanRecords_wears _ _ _) fun scanned => ?_
    rcases scanned with ⟨found, _ | e⟩
    · exact .bind (.of_frames fun _ => rfl) fun _ => .of_frames (.pure _)
    · exact .of_frames (.pure _)

/-- So does processing under any mode. -/
lemma processIn_wears (run : ImportRun) : Wears run.processIn := by
  unfold processIn
  split
  · exact .of_frames (.pure _)
  · exact .bind run.process_wears fun _ => .of_frames (.pure _)

end ImportRun

namespace ImportService

/-- Reading a value of the form adds no fault. -/
lemma usable_wears {α : Type} (e : Except ValueFault α) : Wears (usable e).run :=
  .of_frames (usable_frames e)

/-- The run over a table adds no fault. -/
lemma runTable_wears (table : Csv.Table) (mode : Mode) (quiz : Quiz) (pinned : RowPasswords) :
    Wears (runTable table mode quiz pinned).run := by
  unfold runTable
  refine .run_bind (fun s => ?_) fun processed => .run_bind (usable_wears _) fun outcome => ?_
  · exact ImportRun.processIn_wears _ s
  · rcases outcome with e | _ | _ <;> exact .of_frames fun _ => rfl

end ImportService

end QuizOverrides
