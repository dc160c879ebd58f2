import QuizOverrides.Http.ErrorBody
import QuizOverrides.Http.Form
import QuizOverrides.Import.Service

set_option autoImplicit false

/-!
# The API of the import service

The four requests for the overrides of a quiz: to preview an upload, to commit or discard an import,
and to download a template. A request is answered directly, or as it comes over HTTP: then its
address has to name identifiers and its form has to be valid, and whatever it throws becomes an
error body.

## Main definitions

* `QuizOverrides.Request` — a request with a form that has been read.
* `QuizOverrides.Request.answer` — the direct answer.
* `QuizOverrides.HttpRequest` — a request with a form that has not been read.
* `QuizOverrides.HttpRequest.answer` — the answer over HTTP.
-/

namespace QuizOverrides

/-! ## Requests -/

/-- **An uploaded file** and the type it claims to have. -/
structure Upload where
  mimeType : Field String
  bytes : ByteArray

/-- The types that delimited text is uploaded as; they differ between clients. -/
def uploadTypes : List String :=
  ["text/csv", "text/plain", "application/csv", "application/vnd.ms-excel",
    "application/octet-stream"]

/-- **A file sent to a client**: its text, its type and what to do with it. -/
structure Download where
  content : String
  type : String
  disposition : String
deriving DecidableEq, Repr

/-- The download of a template. -/
def Template.download (t : Template) : Download :=
  ⟨t.content, "text/csv; charset=utf-8", s!"attachment; filename=\"{t.fileName}\""⟩

/-- **What a request is answered with.** -/
inductive Answer where
  | preview (p : Preview)
  | committed (s : CommitSummary)
  | discarded
  | template (d : Download)
deriving Repr

/-- **A request** for the overrides of a quiz. -/
inductive Request where
  | preview (quizId : Field String) (file : Option Upload) (form : ImportForm)
      (origin : RequestOrigin)
  | commit (quizId importId : Field String) (origin : RequestOrigin)
  | discard (quizId importId : Field String)
  | template (quizId : Field String) (mode : Mode)

/-- The file of an upload, if it may be read as delimited text. -/
def acceptUpload (file : Option Upload) : Action Refusal ByteArray :=
  match file with
  | none => throw .noFile
  | some upload => do
    if upload.mimeType.toOption.any uploadTypes.contains then pure upload.bytes
    else
      logLine
        ⟨.warn, "OverrideImportController", s!"Unsupported file type: {upload.mimeType.text}", []⟩
      throw .unsupportedType

/-- **The answer to a request.** -/
def Request.answer : Request → Action Refusal Answer
  | preview quizId file form origin => do
    let bytes ← acceptUpload file
    pure (.preview (← ImportService.preview quizId bytes form origin))
  | commit quizId importId origin => do
    pure (.committed (← ImportService.commit quizId importId origin))
  | discard quizId importId => do
    ImportService.discard quizId importId
    pure .discarded
  | template quizId mode => do
    pure (.template (← ImportService.template quizId mode).download)

/-! ## HTTP -/

/-- **A request over HTTP**, with the parts of its address and the form as they were sent. -/
inductive HttpRequest where
  | preview (quizId : Option Payload) (file : Option Upload) (form : Payload)
      (origin : RequestOrigin)
  | commit (quizId importId : Option Payload) (origin : RequestOrigin)
  | discard (quizId importId : Option Payload)
  | template (quizId : Option Payload) (form : Payload)

namespace HttpRequest

/-- The method of a request. -/
def method : HttpRequest → String
  | preview .. => "POST"
  | commit .. => "POST"
  | discard .. => "DELETE"
  | template .. => "GET"

/-- The quiz that a request is about. -/
def quizId : HttpRequest → Option Payload
  | preview quizId .. => quizId
  | commit quizId .. => quizId
  | discard quizId _ => quizId
  | template quizId _ => quizId

/-- **The path of a request.** -/
def url (r : HttpRequest) : String :=
  let base := s!"/api/v1/quizzes/{Payload.wordOf r.quizId}/overrides"
  match r with
  | preview .. => base ++ "/import"
  | commit _ importId _ => s!"{base}/import/{Payload.wordOf importId}/commit"
  | discard _ importId => s!"{base}/import/{Payload.wordOf importId}"
  | template .. => base ++ "/template"

/-- The status of the answer to a request. -/
def successStatus : HttpRequest → Int
  | preview .. => 201
  | commit .. => 200
  | discard .. => 204
  | template .. => 200

/-- The identifier in an address, which is a text that has the shape of one. -/
def readIdentifier (id : Option Payload) : Except Refusal (Field String) :=
  match id with
  | some (.text s) => if Uuid.hasShape s then .ok (.given s) else .error .badIdentifier
  | _ => .error .noIdentifier

/-- **Reading a request**: first the identifiers of the address in their order, then the form. -/
def read : HttpRequest → Except Refusal Request
  | preview quizId file form origin => do
    let quizId ← readIdentifier quizId
    match UploadForm.ofPayload form with
    | .ok f => .ok (.preview quizId file f.importForm origin)
    | .error problems => .error (.badForm problems)
  | commit quizId importId origin => do
    let quizId ← readIdentifier quizId
    let importId ← readIdentifier importId
    .ok (.commit quizId importId origin)
  | discard quizId importId => do
    let quizId ← readIdentifier quizId
    let importId ← readIdentifier importId
    .ok (.discard quizId importId)
  | template quizId form => do
    let quizId ← readIdentifier quizId
    match TemplateForm.ofPayload form with
    | .ok f => .ok (.template quizId (.kind f.kind))
    | .error problems => .error (.badForm problems)

/-- **The answer over HTTP**: the answer with its status, or what is answered to an error. -/
def answer (r : HttpRequest) :
    StateM Site (Except (Except ValueFault ErrorBody) (Int × Answer)) := do
  let act : Action Refusal Answer :=
    match r.read with
    | .ok request => request.answer
    | .error refusal => throw refusal
  match ← act.run with
  | .ok a => pure (.ok (r.successStatus, a))
  | .error refusal =>
    pure (.error (← answerError refusal.thrown (some (.text r.method)) (some (.text r.url))))

end HttpRequest

end QuizOverrides
