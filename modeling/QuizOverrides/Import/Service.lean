import QuizOverrides.Import.Batches
import QuizOverrides.Import.Template
import QuizOverrides.Row.Mode
import QuizOverrides.Site.Audit

set_option autoImplicit false

/-!
# The import service

Users upload a file and preview what it would change, then commit or discard the import, or download
a template. A commit validates the upload anew against the tables as they are by then.

## Main definitions

* `QuizOverrides.ImportForm` — how an upload is to be read.
* `QuizOverrides.ImportService.preview`, `commit`, `discard`, `template` — the requests.
* `QuizOverrides.ImportService.examine`, `revalidate` — the runs of a preview and of a commit.
-/

namespace QuizOverrides

/-- **How an upload is to be read**: the mode, the delimiter, and the label of the encoding, which
may be left out or null. -/
structure ImportForm where
  mode : Mode
  delimiter : Csv.DelimiterChoice
  encoding : Option Payload
deriving Repr

/-- The form that the fields of a payload make, whatever they hold. -/
def ImportForm.ofPayload (form : Payload) : ImportForm :=
  { mode := .ofOption (form.field? "mode")
    delimiter := .ofForm (form.field? "delimiter")
    encoding := form.field? "encoding" }

/-- Where a request came from. -/
structure RequestOrigin where
  ipAddress : Option Payload
  userAgent : Option Payload
deriving Repr

/-- **How many rows of a preview do what**, and how many have errors. -/
structure PreviewSummary where
  insert : Nat
  update : Nat
  delete : Nat
  skip : Nat
  invalid : Nat
deriving DecidableEq, Repr

/-- **A preview**: the import that it offers and the rows of the upload. -/
structure Preview where
  importId : String
  mode : Mode
  canImport : Bool
  summary : PreviewSummary
  rows : List ImportRow
deriving Repr

namespace PreviewSummary

/-- The number of rows of an action. -/
def countAction (a : OverrideAction) (rows : List ImportRow) : Nat :=
  rows.countP fun row => row.action == a

/-- **The summary of rows.** -/
def ofRows (rows : List ImportRow) : PreviewSummary :=
  { insert := countAction .insert rows
    update := countAction .update rows
    delete := countAction .delete rows
    skip := countAction .skip rows
    invalid := rows.countP fun row => !row.errors.isEmpty }

/-- The summary as a payload. -/
def payload (s : PreviewSummary) : Payload :=
  .record
    [("insert", .ofNat s.insert), ("update", .ofNat s.update), ("delete", .ofNat s.delete),
      ("skip", .ofNat s.skip), ("invalid", .ofNat s.invalid)]

end PreviewSummary

/-- The summary of a commit as a payload. -/
def CommitSummary.payload (s : CommitSummary) : Payload :=
  .record
    [("inserted", .ofNat s.inserted), ("updated", .ofNat s.updated), ("deleted", .ofNat s.deleted)]

namespace ImportService

/-- The component of audit reports about imports. -/
def component : String := "QUIZ_OVERRIDES"

/-- The encoding of uploads that do not name one. -/
def defaultEncoding : String := "utf-8"

/-- **The quiz of a request.** -/
def findQuiz (id : Field String) : Action Refusal Quiz := do
  match ← (Quizzes.find? id).mapError .storage with
  | some quiz => pure quiz
  | none => throw (.quizNotFound id)

/-- The value, or a refusal because of its fault. -/
def usable {α : Type} : Except ValueFault α → Action Refusal α
  | .ok a => pure a
  | .error fault => throw (.unusable fault)

/-- **A run over a table** that has passed its header check. -/
def runTable (table : Csv.Table) (mode : Mode) (quiz : Quiz) (pinned : RowPasswords) :
    Action Refusal ImportRun := do
  let scope : QuizScope := ⟨.given quiz.id, .given quiz.courseId⟩
  let run : ImportRun := { settings := ⟨mode, scope, pinned⟩, table := table }
  let (outcome, run) ← run.processIn
  match ← usable outcome with
  | .error e => throw (.storage e)
  | .ok true => pure run
  | .ok false => throw (.badHeader (run.headerError.getD .noHeader))

/-- The label of the encoding that an upload is read in. -/
def encodingLabel (form : ImportForm) : Except ValueFault String :=
  match form.encoding with
  | none | some .null => .ok defaultEncoding
  | some given => given.text?

/-- The text of an upload. -/
def decode (form : ImportForm) (bytes : ByteArray) : Action Refusal String := do
  let label ← usable (encodingLabel form)
  match decodeUpload (← get).runtime.decoders label bytes with
  | .ok text => pure text
  | .error e => throw (.undecodable e)

/-- **The run over an upload**, with the quiz and the text of the upload. -/
def examine (quizId : Field String) (bytes : ByteArray) (form : ImportForm) :
    Action Refusal (Quiz × String × ImportRun) := do
  let quiz ← findQuiz quizId
  let content ← decode form bytes
  let table ← usable (Csv.Table.ofChoice content form.delimiter)
  if table.columns.isEmpty then throw .emptyFile
  if table.records.isEmpty then throw .noRecords
  let run ← runTable table form.mode quiz []
  if run.rows.isEmpty then throw .nothingToImport
  pure (quiz, content, run)

/-- **The preview of an upload**, which is kept as a batch. No override is written. -/
def preview (quizId : Field String) (bytes : ByteArray) (form : ImportForm)
    (origin : RequestOrigin) : Action Refusal Preview := do
  let (quiz, content, run) ← examine quizId bytes form
  let importId ←
    (Batches.save quiz.id form.mode form.delimiter content run.generatedPasswords).mapError .storage
  let summary := PreviewSummary.ofRows run.rows
  Audit.report
    { action := some (.text "OVERRIDES_PREVIEWED")
      component := some (.text component)
      level := some (.text "info")
      entityId := some (.text quiz.id)
      entityType := some (.text "Quiz")
      metadata := some (.record
        [("importId", .text importId), ("mode", form.mode.payload),
          ("canImport", .bool run.canImport), ("summary", summary.payload)])
      ipAddress := origin.ipAddress
      userAgent := origin.userAgent }
  pure ⟨importId, form.mode, run.canImport, summary, run.rows⟩

/-- The rows of a run that have errors. -/
def invalidRows (run : ImportRun) : List (Nat × FieldErrors) :=
  (run.rows.filter fun row => !row.errors.isEmpty).map fun row => (row.number, row.errors)

/-- **The validation of a kept upload** against the tables as they are now, with the passwords that
the preview showed: the quiz, the batch and the run over it. -/
def revalidate (quizId importId : Field String) : Action Refusal (Quiz × Batch × ImportRun) := do
  let quiz ← findQuiz quizId
  let batch ← Batches.find (.given quiz.id) importId
  let table ← usable (Csv.Table.ofChoice batch.content batch.delimiter)
  let run ← runTable table batch.mode quiz batch.passwords
  pure (quiz, batch, run)

/-- **The commit of an import.** Its upload is validated anew; the batch is removed when the rows
have been written. -/
def commit (quizId importId : Field String) (origin : RequestOrigin) :
    Action Refusal CommitSummary := do
  let (quiz, batch, run) ← revalidate quizId importId
  if !run.canImport then throw (.invalidRows batch.mode (invalidRows run))
  let (_, run) ← run.commit
  match run.summary with
  | none =>
    let e := run.commitError.getD (.storage (.error "Override import failed"))
    Audit.reportFailure e.message (.given .callStack) (some (.text component))
      (some (.text "OVERRIDE_IMPORT_FAILED"))
      [("quizId", .text quiz.id), ("importId", .text batch.id)]
    throw (.notImported e)
  | some summary =>
    (Batches.remove batch.id).mapError .storage
    Audit.report
      { action := some (.text "OVERRIDES_IMPORTED")
        component := some (.text component)
        level := some (.text "info")
        entityId := some (.text quiz.id)
        entityType := some (.text "Quiz")
        newValues := some summary.payload
        metadata := some (.record [("importId", .text batch.id), ("mode", batch.mode.payload)])
        ipAddress := origin.ipAddress
        userAgent := origin.userAgent }
    pure summary

/-- **Discarding an import.** -/
def discard (quizId importId : Field String) : Action Refusal Unit := do
  let batch ← Batches.find quizId importId
  (Batches.remove batch.id).mapError .storage
  logLine
    ⟨.log, "OverrideImportService",
      s!"Discarded override import {batch.id} for quiz {quizId.text}", []⟩

/-- The template of a quiz for a mode. The rows are composed before the header is looked for. -/
def buildTemplate (quiz : Quiz) (mode : Mode) : Action Refusal Template := do
  let rows ← (Template.rows quiz mode.lookupKind).mapError .storage
  let header ← usable mode.writtenHeader
  pure (.ofRows quiz mode.word header rows)

/-- **The template of a quiz.** -/
def template (quizId : Field String) (mode : Mode) : Action Refusal Template := do
  let quiz ← findQuiz quizId
  buildTemplate quiz mode

end ImportService

end QuizOverrides
