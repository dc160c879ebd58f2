import QuizOverrides.Http.Error
import QuizOverrides.Payload.Fault
import QuizOverrides.Payload.Size
import QuizOverrides.Calendar.Instant

set_option autoImplicit false

/-!
# Error bodies

Whatever a request throws, the client receives a body with a status, the instant, the path, the name
of the error and a message. Only HTTP errors show anything of themselves: their message, and the
fields of their response that are not among these five. The error is told to the console, a server
error with its trace.

## Main definitions

* `QuizOverrides.ErrorBody` — the body.
* `QuizOverrides.ErrorBody.ofThrown` — the body for what was thrown.
* `QuizOverrides.tellError` — the line of the console.
-/

namespace QuizOverrides

open Calendar

/-- **The message of a body**: a text or a list of texts. -/
inductive ErrorMessage where
  | text (message : String)
  | list (messages : List String)
deriving DecidableEq, Repr

/-- A message on one line. -/
def ErrorMessage.line : ErrorMessage → String
  | text message => message
  | list messages => "; ".intercalate messages

/-- **The body of an error.** -/
structure ErrorBody where
  statusCode : Field Whole
  timestamp : Instant
  path : Option Payload
  error : String
  message : ErrorMessage
  details : List (String × Payload)
deriving Repr

namespace ErrorBody

/-- The fields that every body has for itself. -/
def reserved : List String := ["statusCode", "timestamp", "path", "error", "message"]

/-- The message of a response that has fields, or the fault of an item of it. -/
def readMessage (response : Payload) (fallback : String) : Except ValueFault ErrorMessage :=
  match response.field? "message" with
  | some (.text s) => .ok (.text s)
  | some (.list items) => (items.mapM Payload.text?).map .list
  | _ => .ok (.text fallback)

/-- The message of a server error of which nothing is shown. -/
def hiddenMessage : ErrorMessage := .text "Internal server error"

/-- The message that an HTTP error shows. -/
def messageOf (e : HttpError) : Except ValueFault ErrorMessage :=
  match e.response with
  | .text s => .ok (.text s)
  | .record _ | .list _ => readMessage e.response e.message
  | _ => .ok hiddenMessage

/-- The fields of a response that its body carries over. -/
def detailsOf (response : Payload) : List (String × Payload) :=
  response.members.filter fun (name, _) => !reserved.contains name

/-- **The body for what was thrown** by the request for a path. There is none if an item of the
message that an HTTP error shows has no text; then the fault of that item is thrown. -/
def ofThrown (thrown : Thrown) (path : Option Payload) (now : Instant) :
    Except ValueFault ErrorBody :=
  match thrown with
  | .http e => do
    let message ← messageOf e
    pure
      { statusCode := e.kind.status
        timestamp := now
        path := path
        error := e.kind.name
        message := message
        details := detailsOf e.response }
  | _ =>
    pure
      { statusCode := .given (.finite 500)
        timestamp := now
        path := path
        error := "Internal Server Error"
        message := hiddenMessage
        details := [] }

end ErrorBody

/-- The trace told for what was thrown: that of an error, if it has one; other values have none. -/
def Thrown.trace : Thrown → Trace
  | http _ => .callStack
  | error _ _ trace =>
    if Console.isEmptyTrace trace then .text "No stack trace available" else trace
  | value _ => .text ""

/-- The least status of errors of the server. -/
def serverErrors : Nat := 500

/-- The error is one of the server. -/
def ErrorBody.isServerError (body : ErrorBody) : Bool :=
  match body.statusCode with
  | .given status => !status.below serverErrors
  | .other status => status.reaches serverErrors
  | _ => false

/-- **Telling an error** to the console: server errors with their trace, others as warnings. -/
def tellError (thrown : Thrown) (method url : Option Payload) (body : ErrorBody) (c : Console) :
    Console :=
  let status := body.statusCode.shown Whole.text
  let request := s!"{Payload.wordOf method} {Payload.wordOf url}"
  let line := s!"{request} {status} - {body.message.line}"
  if body.isServerError then c.error line thrown.trace "HttpExceptionFilter"
  else c.warn line "HttpExceptionFilter"

/-- **Answering an error**: the body, and the line of the console. An error without a body is not
told. -/
def answerError (thrown : Thrown) (method url : Option Payload) :
    StateM Site (Except ValueFault ErrorBody) := do
  let answer := ErrorBody.ofThrown thrown url (← get).clock.instant
  if let .ok body := answer then onConsole (tellError thrown method url body)
  pure answer

end QuizOverrides
