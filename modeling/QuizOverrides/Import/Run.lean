import QuizOverrides.Import.Commit
import QuizOverrides.Row.Mode
import QuizOverrides.Csv.Table

set_option autoImplicit false

/-!
# Import runs

A run takes an import file through its header check, through the validation and reconciliation of
its records in order, and, once all rows are free of errors, through the commit. A run keeps what it
has reached, so that it can be processed and imported again.

## Main definitions

* `QuizOverrides.ImportRow` — a row that a run lists.
* `QuizOverrides.assessRecord` — validation and reconciliation of one record.
* `QuizOverrides.scanRecords` — the rows of the records of a file.
* `QuizOverrides.markDuplicates` — rows about a subject that an earlier row is about.
* `QuizOverrides.ImportRun` — a run, with `ImportRun.process` and `ImportRun.commit`.
-/

namespace QuizOverrides

/-! ## Rows -/

/-- **A row that a run lists**: its number, what becomes of its override, the override to be
written, its cells, the identifier and the name of its subject, whether its password was generated,
and its errors. -/
structure ImportRow where
  number : Nat
  action : OverrideAction
  draft : OverrideDraft
  cells : Cells
  subjectId : Option String
  subjectName : Option String
  generated : Bool
  errors : FieldErrors
deriving DecidableEq, Repr

/-- **The change that a row makes.** -/
def ImportRow.change (row : ImportRow) : RowChange :=
  ⟨.given (.finite row.number), row.action, row.draft⟩

/-- The quiz that a run is about, and its course. -/
structure QuizScope where
  id : Field String
  courseId : Field String
deriving DecidableEq, Repr

/-- **What a run assesses records with**: the mode, the quiz, and the passwords that an
earlier run generated. -/
structure RunSettings where
  mode : Mode
  quiz : QuizScope
  pinned : RowPasswords
deriving DecidableEq, Repr

/-- **The row of a record**, or nothing for a record that changes nothing. -/
def assessRecord (s : RunSettings) (number : Nat) (record : List String) :
    Action StorageError (Option ImportRow) := do
  let cells := Cells.ofRecord record
  let row ← validateIn s.mode s.quiz.courseId cells
  let outcome ← reconcileIn s.quiz.id s.mode row cells.isBlank (s.pinned.lookup number)
  if outcome.action = .skip then pure none
  else
    pure (some
      { number := number
        action := outcome.action
        draft := outcome.draft
        cells := cells
        subjectId := row.fields.subjectId
        subjectName := row.fields.subjectName
        generated := outcome.generated
        errors := row.errors })

/-- **The rows of records** numbered from `number + 1` on, and what stopped the run if anything
did. -/
def scanRecords (s : RunSettings) :
    Nat → List (List String) → StateM Site (List ImportRow × Option StorageError)
  | _, [] => pure ([], none)
  | number, record :: rest => do
    match ← (assessRecord s (number + 1) record).run with
    | .error e => pure ([], some e)
    | .ok none => scanRecords s (number + 1) rest
    | .ok (some row) =>
      let (rows, stopped) ← scanRecords s (number + 1) rest
      pure (row :: rows, stopped)

/-! ## Duplicates -/

/-- The subject that a row is known to be about: one without an error and with an identifier. -/
def ImportRow.knownSubject (row : ImportRow) : Option String :=
  if row.errors.subject.isSome then none else given? row.subjectId

/-- The row with an error about its subject. -/
def ImportRow.withSubjectError (row : ImportRow) (e : SubjectError) : ImportRow :=
  { row with errors := { row.errors with subject := some e } }

/-- Marks the rows whose subject is among those `seen` or that of an earlier row; `seen` gives the
first row of each subject. -/
def markFrom : List (String × Nat) → List ImportRow → List ImportRow
  | _, [] => []
  | seen, row :: rest =>
    match row.knownSubject with
    | none => row :: markFrom seen rest
    | some subject =>
      match seen.lookup subject with
      | some first =>
        row.withSubjectError (.duplicate subject first) :: markFrom seen rest
      | none => row :: markFrom ((subject, row.number) :: seen) rest

/-- **Marking duplicates**: a row about a subject that an earlier row is about has an error. -/
def markDuplicates (rows : List ImportRow) : List ImportRow :=
  markFrom [] rows

/-! ## The header -/

/-- **What may be wrong with the header**: there is none, or it is not the expected one. -/
inductive HeaderError where
  | noHeader
  | mismatch (expected found : List String)
deriving DecidableEq, Repr

/-- What users are told about the header. -/
def HeaderError.message : HeaderError → String
  | noHeader => "The file is empty"
  | mismatch expected found =>
    let wanted := ", ".intercalate expected
    let got := ", ".intercalate found
    s!"Incorrect column headers. Expected: {wanted}. Found: {got}"

/-- **The check of the header**, which has to be the expected one to the letter. -/
def checkHeader (mode : Mode) (columns : List String) : Option HeaderError :=
  if columns = [] then some .noHeader
  else if columns = mode.header then none
  else some (.mismatch mode.header columns)

/-! ## Runs -/

/-- **A run**: what it works on, and what it has reached so far. -/
structure ImportRun where
  settings : RunSettings
  table : Csv.Table
  processed : Bool := false
  headerError : Option HeaderError := none
  rows : List ImportRow := []
  commitError : Option CommitError := none
  summary : Option CommitSummary := none
deriving Repr

namespace ImportRun

/-- **The run can be imported**: it has been processed and no row has an error. -/
def canImport (run : ImportRun) : Bool :=
  run.processed && run.rows.all fun row => row.errors.isEmpty

/-- **The passwords that the run generated**, by the numbers of their rows. -/
def generatedPasswords (run : ImportRun) : RowPasswords :=
  run.rows.filterMap fun row =>
    if row.generated then row.draft.data.values.password.map fun p => (row.number, p) else none

/-- A line of the log of runs. -/
def line (weight : LogWeight) (message : String) (details : List LogDetail) : LogLine :=
  ⟨weight, "OverrideImportProcess", message, details⟩

/-- A truth value in messages. -/
def boolText (b : Bool) : String := if b then "true" else "false"

/-- The run before anything has been processed. -/
def cleared (run : ImportRun) : ImportRun :=
  { run with processed := false, headerError := none, rows := [] }

/-- **Processing** under a mode that has a header: the header is checked and all records are
assessed. The outcome is whether the header was accepted; a storage error stops the run where it
is. -/
def process (run : ImportRun) : StateM Site (Except StorageError Bool × ImportRun) := do
  let run := run.cleared
  let mode := run.settings.mode
  match checkHeader mode run.table.columns with
  | some e =>
    let quizId := run.settings.quiz.id.text
    logLine (line .warn s!"Header check failed for quiz {quizId}: {e.message}" [])
    pure (.ok false, { run with headerError := some e })
  | none =>
    let (found, stopped) ← scanRecords run.settings 0 run.table.records
    let run := { run with rows := markDuplicates found }
    match stopped with
    | some e => pure (.error e, run)
    | none =>
      let run := { run with processed := true }
      let records := Text.intText run.table.records.length
      let listed := Text.intText run.rows.length
      let ready := boolText run.canImport
      logLine (line .log
        (s!"Processed {records} row(s) for quiz {run.settings.quiz.id.text} ({mode.word}): "
          ++ s!"{listed} to preview, canImport={ready}") [])
      pure (.ok true, run)

/-- **Processing under any mode**, or the fault of a mode that has no header. -/
def processIn (run : ImportRun) :
    StateM Site (Except ValueFault (Except StorageError Bool) × ImportRun) := do
  match run.settings.mode.headerFault? run.table.columns with
  | some fault => pure (.error fault, run.cleared)
  | none => do
    let (result, run) ← run.process
    pure (.ok result, run)

/-- **Importing**: the rows are committed if the run can be imported. The outcome is whether they
were. -/
def commit (run : ImportRun) : StateM Site (Bool × ImportRun) := do
  let run := { run with commitError := none, summary := none }
  let quizId := run.settings.quiz.id.text
  if !run.processed then
    logLine (line .warn "import() called before a successful process()" [])
    pure (false, run)
  else if !run.canImport then
    logLine (line .warn
      s!"Refusing to import overrides for quiz {quizId}: rows have validation errors" [])
    pure (false, run)
  else
    match ← (commitChanges (run.rows.map ImportRow.change)).run with
    | .ok summary => pure (true, { run with summary := some summary })
    | .error e =>
      let e := e.asError
      logLine (line .error s!"Override import for quiz {quizId} rolled back: {e.message}"
        [.trace .callStack])
      pure (false, { run with commitError := some e })

end ImportRun

end QuizOverrides
