import QuizOverrides.Import.Run
import QuizOverrides.Payload.Fault
import QuizOverrides.Text.Encoding

set_option autoImplicit false

/-!
# Refusals

Why a request to the import service is refused. A refusal names its cause; how it is told to clients
is decided elsewhere.

## Main definitions

* `QuizOverrides.Refusal` — the causes.
* `QuizOverrides.Refusal.message` — the words of a refusal.
-/

namespace QuizOverrides

/-- **Why a request is refused.** -/
inductive Refusal where
  /-- Storage failed. -/
  | storage (e : StorageError)
  /-- What the request gives cannot be used. -/
  | unusable (fault : ValueFault)
  /-- There is no such quiz. -/
  | quizNotFound (id : Field String)
  /-- There is no such import for the quiz. -/
  | importNotFound (id : Field String)
  /-- The import has waited too long for its commit. -/
  | importExpired (id : String)
  /-- Nothing was uploaded. -/
  | noFile
  /-- The type of the upload is not one of those that delimited text comes as. -/
  | unsupportedType
  /-- The upload has no text. -/
  | undecodable (e : DecodeError)
  /-- The upload has no header. -/
  | emptyFile
  /-- The upload has a header only. -/
  | noRecords
  /-- The header is not the expected one. -/
  | badHeader (e : HeaderError)
  /-- No record changes anything. -/
  | nothingToImport
  /-- At the commit rows have errors. -/
  | invalidRows (mode : Mode) (rows : List (Nat × FieldErrors))
  /-- The rows could not be written. -/
  | notImported (e : CommitError)
  /-- An address has no text in the place of an identifier. -/
  | noIdentifier
  /-- An address is not an identifier. -/
  | badIdentifier
  /-- A form has fields with bad values. -/
  | badForm (problems : List String)
deriving Repr

/-- **The words of a refusal.** -/
def Refusal.message : Refusal → String
  | storage e => e.message
  | unusable fault => fault.message
  | quizNotFound id => s!"Quiz with ID {id.text} not found"
  | importNotFound id => s!"Override import {id.text} not found"
  | importExpired id => s!"Override import {id} has expired; upload the file again"
  | noFile => "No file uploaded"
  | unsupportedType => "Unsupported file type. Upload a .csv or .txt file"
  | undecodable e => e.message
  | emptyFile => "The uploaded file is empty"
  | noRecords => "The uploaded file has a header but no data rows"
  | badHeader e => e.message
  | nothingToImport => "The uploaded file contains no overrides to import"
  | invalidRows _ _ => "The import no longer validates; upload the file again to review the errors"
  | notImported e => s!"No overrides were imported: {e.message}"
  | noIdentifier => "The value passed as UUID is not a string"
  | badIdentifier => "Validation failed (uuid is expected)"
  | badForm problems => "; ".intercalate problems

end QuizOverrides
