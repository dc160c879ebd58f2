import QuizOverrides.Import.Refusal
import QuizOverrides.Row.Mode
import QuizOverrides.Payload.Basic
import QuizOverrides.Site.Audit

set_option autoImplicit false

/-!
# Errors of requests

What a request may throw: an HTTP error with a status and a response, an ordinary error, or any
other value. Refusals become HTTP errors, except that storage errors are passed on as they are.

## Main definitions

* `QuizOverrides.HttpErrorKind` — a class of HTTP errors.
* `QuizOverrides.HttpError` — an HTTP error; `HttpError.describe` builds its response.
* `QuizOverrides.Thrown` — what a request throws.
* `QuizOverrides.Refusal.thrown` — what a refusal throws.
-/

namespace QuizOverrides

/-- **A class of HTTP errors**: the name of the class, the status of its errors, if they have one,
and the description that they are made with unless another is given. -/
structure HttpErrorKind where
  name : String
  status : Field Whole
  description : Option String := none
deriving DecidableEq, Repr

namespace HttpErrorKind

/-- The class of a status, with a description. -/
def ofStatus (status : Nat) (name description : String) : HttpErrorKind :=
  ⟨name, .given (.finite status), some description⟩

/-- The request is at fault. -/
def badRequest : HttpErrorKind := ofStatus 400 "BadRequestException" "Bad Request"

/-- What is asked for is not there. -/
def notFound : HttpErrorKind := ofStatus 404 "NotFoundException" "Not Found"

/-- What is asked for was there. -/
def gone : HttpErrorKind := ofStatus 410 "GoneException" "Gone"

/-- The server is at fault. -/
def internalServerError : HttpErrorKind :=
  ofStatus 500 "InternalServerErrorException" "Internal Server Error"

/-- The class of all others, whose errors are made with a status, or without one. -/
def custom (status : Field Whole) : HttpErrorKind := ⟨"HttpException", status, none⟩

/-- The classes with a status of their own that are found by name. -/
def named : List HttpErrorKind :=
  [badRequest,
    ofStatus 401 "UnauthorizedException" "Unauthorized",
    ofStatus 403 "ForbiddenException" "Forbidden",
    notFound,
    ofStatus 409 "ConflictException" "Conflict",
    gone,
    ofStatus 413 "PayloadTooLargeException" "Payload Too Large",
    ofStatus 422 "UnprocessableEntityException" "Unprocessable Entity",
    internalServerError,
    ofStatus 503 "ServiceUnavailableException" "Service Unavailable"]

/-- The class of a name; a custom error needs its status besides. -/
def ofName? (name : String) : Option HttpErrorKind :=
  named.find? fun k => k.name == name

/-! ### Words of a name -/

/-- A word goes on with a character: digits with a digit, and a capital with small letters. -/
def continues (word : List Char) (c : Char) : Bool :=
  match word with
  | [] => false
  | first :: _ => if Text.isDigit first then Text.isDigit c else 'a' ≤ c && c ≤ 'z'

/-- A word is complete: digits, or a capital with small letters after it. -/
def isWord : List Char → Bool
  | [] => false
  | first :: rest => Text.isDigit first || !rest.isEmpty

/-- The words of a name that has been read up to a word which may go on. Characters that no word
begins with are left out. -/
def wordsFrom (word : List Char) : List Char → List String
  | [] => if isWord word then [String.ofList word] else []
  | c :: cs =>
    if continues word c then wordsFrom (word ++ [c]) cs
    else
      let next := if Text.isDigit c || ('A' ≤ c && c ≤ 'Z') then [c] else []
      (if isWord word then [String.ofList word] else []) ++ wordsFrom next cs

/-- **The words of the name** of a class: runs of digits, and capitals with small letters. -/
def spelledName (k : HttpErrorKind) : String :=
  match wordsFrom [] k.name.toList with
  | [] => "Error"
  | words => " ".intercalate words

example : badRequest.spelledName = "Bad Request Exception" := by decide +kernel

end HttpErrorKind

/-- **An HTTP error** and its response. -/
structure HttpError where
  kind : HttpErrorKind
  response : Payload
deriving Repr

namespace HttpError

/-- **The error of a kind for an argument**: without one the description is the message of the
response, a text or a list becomes its message, and anything else is the response itself. -/
def describe (kind : HttpErrorKind) (arg : Payload) (description : Option Payload) : HttpError :=
  let status := ("statusCode", Payload.ofField .ofWhole kind.status)
  ⟨kind,
    if arg.isEmptyValue then .ofGiven [("message", description), status]
    else
      match arg with
      | .text _ | .list _ =>
        .ofGiven [("message", some arg), ("error", description), status]
      | _ => arg⟩

/-- The description that an error is made with, by what stands in its place: if nothing does, the
description of the kind; a text is the description itself, and of a record it is the field of that
name. -/
def givenDescription (kind : HttpErrorKind) : Option Payload → Option Payload
  | none => kind.description.map .text
  | some (.text s) => some (.text s)
  | some options => options.field? "description"

/-- The error of a kind with a message. -/
def ofMessage (kind : HttpErrorKind) (message : String) : HttpError :=
  describe kind (.text message) (givenDescription kind none)

/-- **The message of an error**: its response if that is a text, else the message of its response if
that is a text, else the words of its name. -/
def message (e : HttpError) : String :=
  match e.response with
  | .text s => s
  | response =>
    match response.field? "message" with
    | some (.text s) => s
    | _ => e.kind.spelledName

end HttpError

/-- **What a request throws.** -/
inductive Thrown where
  | http (e : HttpError)
  | error (name message : String) (trace : Trace)
  | value (value : Payload)
deriving Repr

/-- What storage throws. -/
def StorageError.thrown : StorageError → Thrown
  | bareText text => .value (.text text)
  | e => .error "Error" e.message .callStack

/-- What a fault throws. -/
def ValueFault.thrown (fault : ValueFault) : Thrown :=
  .error errorName fault.message .callStack

/-- Messages under the names of fields as a payload. -/
def messagesPayload (messages : List (String × String)) : Payload :=
  .record (messages.map fun (name, message) => (name, .text message))

/-- The errors of a row of a mode as a payload. -/
def FieldErrors.payloadIn (mode : Mode) (e : FieldErrors) : Payload :=
  messagesPayload (e.messagesIn mode)

/-- The rows with errors as a payload. -/
def invalidRowsPayload (mode : Mode) (rows : List (Nat × FieldErrors)) : Payload :=
  .list (rows.map fun (number, e) =>
    .record [("csvRowNumber", .ofNat number), ("errors", e.payloadIn mode)])

/-- **What a refusal throws.** What is not there is not found, what could not be written is an error
of the server, everything else is a bad request. -/
def Refusal.thrown (r : Refusal) : Thrown :=
  match r with
  | storage e => e.thrown
  | unusable fault => fault.thrown
  | quizNotFound _ | importNotFound _ | importExpired _ => .http (.ofMessage .notFound r.message)
  | notImported _ => .http (.ofMessage .internalServerError r.message)
  | invalidRows mode rows =>
    .http ⟨.badRequest,
      .record [("message", .text r.message), ("rows", invalidRowsPayload mode rows)]⟩
  | badForm problems =>
    .http (.describe .badRequest (.list (problems.map .text))
      (HttpError.givenDescription .badRequest none))
  | _ => .http (.ofMessage .badRequest r.message)

end QuizOverrides
