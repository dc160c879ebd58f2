import QuizOverrides.Http.Api
import QuizOverrides.Site.Description

set_option autoImplicit false

/-!
# Bodies of responses

What clients receive in the body of a response, as payloads: the answers to requests and the bodies
of errors.

## Main definitions

* `QuizOverrides.Cells.payload`, `QuizOverrides.ImportRow.payload` — rows of a preview.
* `QuizOverrides.ValidatedRow.payload`, `QuizOverrides.ReconciledRow.payload` — what becomes of a
  single row.
* `QuizOverrides.Answer.payload` — answers.
* `QuizOverrides.ErrorBody.payload`, `QuizOverrides.ErrorBody.response` — bodies of errors, and what
  is sent for them.
-/

namespace QuizOverrides

/-! ## Rows -/

/-- The cells of a row as a payload. -/
def Cells.payload (c : Cells) : Payload :=
  .record
    [("subjectId", .text c.subjectId), ("subjectIdNumber", .text c.subjectIdNumber),
      ("subjectName", .text c.subjectName), ("timeOpen", .text c.timeOpen),
      ("timeClose", .text c.timeClose), ("timeLimit", .text c.timeLimit),
      ("attempts", .text c.attempts), ("password", .text c.password),
      ("generate", .text c.generate)]

/-- **A row of a preview** as a payload. -/
def ImportRow.payload (mode : Mode) (row : ImportRow) : Payload :=
  .record
    [("csvRowNumber", .ofNat row.number), ("action", .text row.action.name),
      ("override", row.draft.payload), ("cells", row.cells.payload),
      ("subjectName", .ofText? row.subjectName), ("generatedPassword", .bool row.generated),
      ("fieldErrors", row.errors.payloadIn mode)]

/-- The values of a row as a payload. -/
def ParsedFields.payload (f : ParsedFields) : Payload :=
  .record
    ([("subjectId", .ofText? f.subjectId), ("subjectName", .ofText? f.subjectName)]
      ++ (f.values f.password).fields ++ [("generatePassword", .bool f.generatePassword)])

/-- **A validated row** of a mode as a payload. -/
def ValidatedRow.payload (mode : Mode) (row : ValidatedRow) : Payload :=
  .record [("fields", row.fields.payload), ("errors", row.errors.payloadIn mode)]

/-- **A reconciled row** as a payload. -/
def ReconciledRow.payload (row : ReconciledRow) : Payload :=
  .record
    [("action", .text row.action.name), ("override", row.draft.payload),
      ("generatedPassword", .bool row.generated)]

/-! ## Answers -/

/-- A preview as a payload. -/
def Preview.payload (p : Preview) : Payload :=
  .record
    [("importId", .text p.importId), ("mode", p.mode.payload), ("canImport", .bool p.canImport),
      ("summary", p.summary.payload), ("rows", .list (p.rows.map (·.payload p.mode)))]

/-- **An answer** as a payload. -/
def Answer.payload : Answer → Payload
  | preview p => p.payload
  | committed s => .record (("success", .bool true) :: s.payload.members)
  | discarded => .record [("discarded", .bool true)]
  | template d =>
    .record
      [("content", .text d.content), ("type", .text d.type), ("disposition", .text d.disposition)]

/-! ## Errors -/

/-- The message of an error as a payload. -/
def ErrorMessage.payload : ErrorMessage → Payload
  | text message => .text message
  | list messages => .list (messages.map .text)

/-- The fields that the body of an error has for itself, given or not. -/
def ErrorBody.ownFields (b : ErrorBody) : List (String × Option Payload) :=
  [("statusCode", Payload.ofField .ofWhole b.statusCode),
    ("timestamp", some (.text b.timestamp.text)), ("path", b.path),
    ("error", some (.text b.error)), ("message", some b.message.payload)]

/-- **The body of an error** as a payload: its own fields, and those that it carries over. -/
def ErrorBody.payload (b : ErrorBody) : Payload :=
  .record ((Payload.ofGiven b.ownFields).members ++ b.details)

/-- **What is sent for an error**: a status and a body. -/
structure ErrorResponse where
  status : Field Whole
  body : Payload
deriving Repr

/-- **The response of a body**: the body itself, under the status that it names. -/
def ErrorBody.response (b : ErrorBody) : ErrorResponse := ⟨b.statusCode, b.payload⟩

end QuizOverrides
