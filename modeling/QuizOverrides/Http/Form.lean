import QuizOverrides.Import.Service
import QuizOverrides.Payload.Basic

set_option autoImplicit false

/-!
# Forms

The forms that come with requests, as payloads of any shape. Fields that a form does not have are
ignored; every field with a bad value is reported.

## Main definitions

* `QuizOverrides.UploadForm` — the form of an upload; `UploadForm.ofPayload` reads it.
* `QuizOverrides.TemplateForm` — the form of a template; `TemplateForm.ofPayload` reads it.
-/

namespace QuizOverrides

/-- **Reading a field**: a missing or null value is fine, any other is read or is a problem. -/
def Field.read {α : Type} (name : String) (value? : Payload → Except String α) (form : Payload) :
    Except String (Field α) :=
  match form.field? name with
  | none => .ok absent
  | some .null => .ok null
  | some v => (value? v).map given

/-- The kind of subject of a form, or what is wrong with it. -/
def readMode (form : Payload) : Except String SubjectKind :=
  match form.field? "mode" with
  | some (.text s) =>
    match SubjectKind.ofName? s with
    | some kind => .ok kind
    | none => .error modeProblem
  | _ => .error modeProblem
where
  /-- What is wrong with a bad kind of subject. -/
  modeProblem : String := "mode must be one of the following values: user, group"

/-- A delimiter, or what is wrong with it. -/
def readDelimiter (v : Payload) : Except String Csv.Delimiter :=
  match v with
  | .text s =>
    match Csv.Delimiter.ofName? s with
    | some d => .ok d
    | none => .error delimiterProblem
  | _ => .error delimiterProblem
where
  /-- What is wrong with a bad delimiter. -/
  delimiterProblem : String :=
    "delimiter must be one of the following values: comma, semicolon, colon, tab"

/-- The label of an encoding, or what is wrong with it. -/
def readEncoding (v : Payload) : Except String String :=
  match v with
  | .text "" => .error "encoding should not be empty"
  | .text s => .ok s
  | _ => .error "encoding must be a string"

/-- What is wrong with a field, if anything is. -/
def problem? {α : Type} : Except String α → Option String
  | .ok _ => none
  | .error p => some p

/-- **The form of an upload.** -/
structure UploadForm where
  kind : SubjectKind
  delimiter : Field Csv.Delimiter
  encoding : Field String
deriving DecidableEq, Repr

namespace UploadForm

/-- **Reading the form of an upload**, or everything that is wrong with it. -/
def ofPayload (form : Payload) : Except (List String) UploadForm :=
  let kind := readMode form
  let delimiter := Field.read "delimiter" readDelimiter form
  let encoding := Field.read "encoding" readEncoding form
  match kind, delimiter, encoding with
  | .ok k, .ok d, .ok e => .ok ⟨k, d, e⟩
  | _, _, _ => .error ([problem? kind, problem? delimiter, problem? encoding].filterMap id)

/-- How the upload is to be read. -/
def importForm (f : UploadForm) : ImportForm :=
  ⟨.kind f.kind, .named (f.delimiter.toOption.getD .comma), f.encoding.toOption.map .text⟩

end UploadForm

/-- **The form of a template.** -/
structure TemplateForm where
  kind : SubjectKind
deriving DecidableEq, Repr

/-- **Reading the form of a template**, or what is wrong with it. -/
def TemplateForm.ofPayload (form : Payload) : Except (List String) TemplateForm :=
  match readMode form with
  | .ok kind => .ok ⟨kind⟩
  | .error p => .error [p]

end QuizOverrides
