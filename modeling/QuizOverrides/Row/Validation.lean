import QuizOverrides.Row.Errors
import QuizOverrides.Site.Tables

set_option autoImplicit false

/-!
# Validation of a row

A row is validated field by field, each by its own rule, so that all that is wrong with it is found
at once. Only the subject needs the tables; everything else is a function of the cells.

## Main definitions

* `QuizOverrides.ParsedFields` and `QuizOverrides.ValidatedRow` — what validation finds.
* `QuizOverrides.readTime`, `readNumber`, `readPassword`, `readGenerate` — the rules of the fields.
* `QuizOverrides.resolveSubject` — the user or the group that a row is about.
* `QuizOverrides.validate` — the validation of a row.
-/

namespace QuizOverrides

open Calendar Text

/-- **The values of a row**; a missing one stands for an empty or a malformed cell. -/
structure ParsedFields where
  subjectId : Option String := none
  subjectName : Option String := none
  timeOpen : Option Instant := none
  timeClose : Option Instant := none
  timeLimit : Option Whole := none
  attempts : Option Whole := none
  password : Option String := none
  generatePassword : Bool := false
deriving DecidableEq, Repr, Inhabited

/-- **A validated row**: its values and its errors. -/
structure ValidatedRow where
  fields : ParsedFields
  errors : FieldErrors
deriving DecidableEq, Repr, Inhabited

/-! ## Rules of single cells -/

/-- The value of a cell that is read as `some` value or has an error. -/
structure CellReading (α ε : Type) where
  value : Option α
  error : Option ε

namespace CellReading

/-- An empty cell has no value and no error. -/
def empty {α ε : Type} : CellReading α ε := ⟨none, none⟩

/-- A cell with a value. -/
def good {α ε : Type} (a : α) : CellReading α ε := ⟨some a, none⟩

/-- A cell with an error. -/
def bad {α ε : Type} (e : ε) : CellReading α ε := ⟨none, some e⟩

end CellReading

/-- **The rule of times.** -/
def readTime (cell : String) : CellReading Instant TimeError :=
  if cell = "" then .empty
  else
    match parseStamp cell with
    | some i => .good i
    | none => .bad (.malformed cell)

/-- **The rule of numbers**: decimal digits only, and no more than the limit. -/
def readNumber (cell : String) : CellReading Whole NumberError :=
  if cell = "" then .empty
  else if cell.toList.all isDigit then
    let n := digitsValue cell.toList
    if maxInteger < n then .bad (.tooLarge cell) else .good (.finite n)
  else .bad (.malformed cell)

/-- **The rule of passwords**: no blanks around it, and no more units than the limit. -/
def readPassword (cell : String) : CellReading String PasswordError :=
  if cell = "" then .empty
  else if cell ≠ trim cell then .bad .padded
  else if maxPasswordLength < unitLength cell then .bad (.tooLong (unitLength cell))
  else .good cell

/-- **The rule of requests for a password**: yes, or no, or nothing. -/
def readGenerate (cell : String) : CellReading Bool GenerateError :=
  if cell = Cells.generateYes then .good true
  else if cell = "" ∨ cell = Cells.generateNo then .good false
  else .bad ⟨cell⟩

/-- The opening time lies after the closing time. -/
def opensAfterClose (timeOpen timeClose : Option Instant) : Bool :=
  match timeOpen, timeClose with
  | some o, some c => c < o
  | _, _ => false

/-! ## The subject -/

/-- **The subject of a row**: its identifier and name as far as they are known, and what is wrong
with it. -/
structure SubjectReading where
  id : Option String
  name : Option String
  error : Option SubjectError
deriving DecidableEq, Repr

/-- The subject of an identifier, found or not. -/
def SubjectReading.ofId (id : String) : Option Subject → SubjectReading
  | some s => ⟨some id, some s.name, none⟩
  | none => ⟨some id, none, some (.unknownId id)⟩

/-- The subject of a description, by the outcome of the search. -/
def SubjectReading.ofLookup (description : SubjectDescription) : SubjectLookup → SubjectReading
  | .found s => ⟨some s.id, some s.name, none⟩
  | .ambiguous _ => ⟨none, none, some (.manyMatch description)⟩
  | .missing => ⟨none, none, some (.noMatch description)⟩

/-- The subject of an identifier. -/
def findSubject? (kind : SubjectKind) (courseId : Field String) (id : String) :
    Action StorageError (Option Subject) :=
  match kind with
  | .user => Directory.findUser? id
  | .group => Directory.findGroup? id courseId

/-- The search for a described subject. -/
def lookupSubject (kind : SubjectKind) (courseId : Field String) (c : SubjectCriteria) :
    Action StorageError SubjectLookup :=
  match kind with
  | .user => Directory.lookupUser c
  | .group => Directory.lookupGroup courseId c

/-- **The subject that cells name**, which are taken without the blanks around them: the identifier
counts if there is one, else the number, else the name. -/
def resolveNamed (kind : SubjectKind) (courseId : Field String) (id number name : String) :
    Action StorageError SubjectReading := do
  if id ≠ "" then
    pure (.ofId id (← findSubject? kind courseId id))
  else if number ≠ "" then
    pure (.ofLookup (.idNumber number) (← lookupSubject kind courseId ⟨.given number, .absent⟩))
  else if name ≠ "" then
    pure (.ofLookup (.name name) (← lookupSubject kind courseId ⟨.absent, .given name⟩))
  else pure ⟨none, none, some .unnamed⟩

/-- **The subject of a row.** -/
def resolveSubject (kind : SubjectKind) (courseId : Field String) (cells : Cells) :
    Action StorageError SubjectReading :=
  resolveNamed kind courseId (trim cells.subjectId) (trim cells.subjectIdNumber)
    (trim cells.subjectName)

/-! ## The row -/

/-- **What the cells of a row are read as**, apart from those that name its subject. -/
structure RowReading where
  timeOpen : CellReading Instant TimeError
  timeClose : CellReading Instant TimeError
  timeLimit : CellReading Whole NumberError
  attempts : CellReading Whole NumberError
  password : CellReading String PasswordError
  generate : CellReading Bool GenerateError

/-- The reading of cells, each by its rule. -/
def readCells (cells : Cells) : RowReading :=
  { timeOpen := readTime cells.timeOpen
    timeClose := readTime cells.timeClose
    timeLimit := readNumber cells.timeLimit
    attempts := readNumber cells.attempts
    password := readPassword cells.password
    generate := readGenerate cells.generate }

/-- **The row of a reading and a subject.** -/
def assembleRow (r : RowReading) (subject : SubjectReading) : ValidatedRow :=
  { fields :=
      { subjectId := subject.id
        subjectName := subject.name
        timeOpen := r.timeOpen.value
        timeClose := r.timeClose.value
        timeLimit := r.timeLimit.value
        attempts := r.attempts.value
        password := r.password.value
        generatePassword := r.generate.value.getD false }
    errors :=
      { subject := subject.error
        timeOpen :=
          if opensAfterClose r.timeOpen.value r.timeClose.value then some .opensAfterClose
          else r.timeOpen.error
        timeClose := r.timeClose.error
        timeLimit := r.timeLimit.error
        attempts := r.attempts.error
        password := r.password.error
        generate := r.generate.error } }

/-- **The validation of a row.** -/
def validate (kind : SubjectKind) (courseId : Field String) (cells : Cells) :
    Action StorageError ValidatedRow := do
  pure (assembleRow (readCells cells) (← resolveSubject kind courseId cells))

end QuizOverrides
