import QuizOverrides.Override.Mode
import QuizOverrides.Payload.Innate
import QuizOverrides.Row.Reconciliation

set_option autoImplicit false

/-!
# Rows of a mode

Files and rows under whatever a request gives as its mode. Most modes that are no kind of subject
have no header, so that no file of theirs is accepted; rows of those that have one are written
without a subject.

## Main definitions

* `QuizOverrides.Mode.header` — the header that files of the mode have to have.
* `QuizOverrides.Mode.headerFault?` — what goes wrong when there is none.
* `QuizOverrides.validateIn`, `QuizOverrides.reconcileIn` — single rows of a mode.

## Main statements

* `QuizOverrides.Mode.headerFault?_kind` — nothing goes wrong under a kind of subject.
-/

namespace QuizOverrides

namespace Mode

/-- **The header** that files of the mode have to have; without one, no columns. -/
def header (mode : Mode) : List String :=
  (mode.headerKind?.map QuizOverrides.header).getD []

/-- **What goes wrong when the header of a file is checked** under the mode, if anything does. The
check looks for the header that belongs to the text of the mode; a file without columns is refused
before what was found is used. An innate part of the table of headers is found as well, and turns
out to be none when its items are asked for. -/
def headerFault? (mode : Mode) (columns : List String) : Option ValueFault :=
  match mode.word? with
  | .error fault => some fault
  | .ok word =>
    if columns = [] ∨ mode.headerKind?.isSome then none
    else
      match Innate.find? word with
      | some (.operation _ values) =>
        if columns.length = values then some (.noOperation "expected.every")
        else some (.noOperation "expected.join")
      | some .model => some (.noOperation "expected.join")
      | none => some (.noPart "undefined" "length")

/-- The header of a kind of subject is always found. -/
theorem headerFault?_kind (k : SubjectKind) (columns : List String) :
    (kind k).headerFault? columns = none := by
  simp [headerFault?, word?, headerKind?]

/-- **The header to be written** for the mode, or the fault of one that has none. -/
def writtenHeader (mode : Mode) : Except ValueFault (List String) :=
  match mode.word?, mode.headerKind? with
  | .error fault, _ => .error fault
  | .ok _, some k => .ok (QuizOverrides.header k)
  | .ok _, none => .error (.noItems "override_import_constants_1.IMPORT_HEADERS[mode]")

end Mode

/-- **The messages of the errors** of a row under a mode. -/
def FieldErrors.messagesIn (mode : Mode) (e : FieldErrors) : List (String × String) :=
  e.messagesWith mode.lookupKind mode.word

/-- **The validation of a row** of a mode. -/
def validateIn (mode : Mode) (courseId : Field String) (cells : Cells) :
    Action StorageError ValidatedRow :=
  validate mode.lookupKind courseId cells

/-- **The reconciliation of a row** of a mode. Unless the mode is a kind of subject, the override to
be written names no subject. -/
def reconcileIn (quizId : Field String) (mode : Mode) (row : ValidatedRow) (blank : Bool)
    (pinned : Option String) : Action StorageError ReconciledRow := do
  let r ← reconcileBlank quizId mode.lookupKind row blank pinned
  match mode with
  | .kind _ => pure r
  | .other _ => pure { r with draft := ⟨r.draft.id, r.draft.data.withoutSubject⟩ }

end QuizOverrides
