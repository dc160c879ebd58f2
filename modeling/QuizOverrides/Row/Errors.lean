import QuizOverrides.Row.Cells

set_option autoImplicit false

/-!
# Errors of a row

Everything that may be wrong with a row, by the field that it is wrong with. Each field has at most
one error; the errors of a row are reported all at once.

## Main definitions

* `QuizOverrides.FieldErrors` — the errors of a row.
* `QuizOverrides.FieldErrors.messages` — the errors as users see them.
-/

namespace QuizOverrides

/-- How a subject was described that was not named by its identifier. -/
inductive SubjectDescription where
  | idNumber (number : String)
  | name (name : String)
deriving DecidableEq, Repr

/-- The words for a description. -/
def SubjectDescription.text : SubjectDescription → String
  | idNumber number => s!"id number '{number}'"
  | name text => s!"name '{text}'"

/-- **What may be wrong with the subject**: nobody has the identifier, nothing names the subject,
nobody or more than one matches the description, or an earlier row is about the same subject. -/
inductive SubjectError where
  | unknownId (id : String)
  | unnamed
  | noMatch (description : SubjectDescription)
  | manyMatch (description : SubjectDescription)
  | duplicate (id : String) (firstRow : Nat)
deriving DecidableEq, Repr

/-- What users are told about a subject that a request calls by the given word. -/
def SubjectError.messageWith (kind : SubjectKind) (word : String) : SubjectError → String
  | unknownId id =>
    match kind with
    | .user => s!"User '{id}' does not exist"
    | .group => s!"Group '{id}' does not exist in this course"
  | unnamed => s!"A {word} id is required"
  | noMatch description => s!"No {word} matches {description.text}"
  | manyMatch description => s!"More than one {word} matches {description.text}"
  | duplicate id firstRow =>
    s!"Duplicate {word} '{id}', already listed on row {Text.intText firstRow}"

/-- **What users are told about a subject.** -/
def SubjectError.message (kind : SubjectKind) (e : SubjectError) : String :=
  e.messageWith kind kind.name

/-- **What may be wrong with a time**: the cell is no date-time, or the opening time is later than
the closing time. -/
inductive TimeError where
  | malformed (text : String)
  | opensAfterClose
deriving DecidableEq, Repr

/-- What users are told about a time. -/
def TimeError.message (column : String) : TimeError → String
  | malformed text => s!"Invalid date '{text}' for {column}, expected YYYY-MM-DD HH:MM +HH:MM"
  | opensAfterClose => "The open time must not be later than the close time"

/-- **What may be wrong with a number**: the cell is no whole number, or the number is too large. -/
inductive NumberError where
  | malformed (text : String)
  | tooLarge (text : String)
deriving DecidableEq, Repr

/-- What users are told about a number. -/
def NumberError.message (label : String) : NumberError → String
  | malformed text => s!"{label} '{text}' must be a whole number of zero or more"
  | tooLarge text =>
    s!"{label} '{text}' must not be greater than {Text.intText maxInteger}"

/-- **What may be wrong with a password**: blanks around it, or its length. -/
inductive PasswordError where
  | padded
  | tooLong (length : Nat)
deriving DecidableEq, Repr

/-- What users are told about a password. -/
def PasswordError.message : PasswordError → String
  | padded => "Password must not start or end with whitespace"
  | tooLong length =>
    let limit := Text.intText maxPasswordLength
    s!"Password must be at most {limit} characters, got {Text.intText length}"

/-- **What may be wrong with the request for a password**: the cell says neither yes nor no. -/
structure GenerateError where
  text : String
deriving DecidableEq, Repr

/-- What users are told about a request for a password. -/
def GenerateError.message (e : GenerateError) : String :=
  s!"Generate must be {Cells.generateYes} or {Cells.generateNo}, got '{e.text}'"

/-- **The errors of a row**, at most one for each field. -/
structure FieldErrors where
  subject : Option SubjectError := none
  timeOpen : Option TimeError := none
  timeClose : Option TimeError := none
  timeLimit : Option NumberError := none
  attempts : Option NumberError := none
  password : Option PasswordError := none
  generate : Option GenerateError := none
deriving DecidableEq, Repr, Inhabited

namespace FieldErrors

/-- The errors as users see them, with the word that a request calls subjects by. -/
def messagesWith (kind : SubjectKind) (word : String) (e : FieldErrors) :
    List (String × String) :=
  [(kind.idColumn, e.subject.map (·.messageWith kind word)),
    ("timeopen", e.timeOpen.map (·.message "timeopen")),
    ("timeclose", e.timeClose.map (·.message "timeclose")),
    ("timelimit", e.timeLimit.map (·.message "Time limit")),
    ("attempts", e.attempts.map (·.message "Attempts")),
    ("password", e.password.map (·.message)),
    ("generate", e.generate.map (·.message))].filterMap
      fun (name, message) => message.map fun m => (name, m)

/-- **The errors as users see them**: the names of the fields and what is wrong with them. -/
def messages (kind : SubjectKind) (e : FieldErrors) : List (String × String) :=
  e.messagesWith kind kind.name

/-- Nothing is wrong with the row. -/
def isEmpty (e : FieldErrors) : Bool :=
  e.subject.isNone && e.timeOpen.isNone && e.timeClose.isNone && e.timeLimit.isNone
    && e.attempts.isNone && e.password.isNone && e.generate.isNone

/-- A row without errors has nothing to tell. -/
theorem messages_eq_nil_iff (kind : SubjectKind) (e : FieldErrors) :
    e.messages kind = [] ↔ e.isEmpty = true := by
  obtain ⟨subject, timeOpen, timeClose, timeLimit, attempts, password, generate⟩ := e
  cases subject <;> cases timeOpen <;> cases timeClose <;> cases timeLimit <;> cases attempts <;>
    cases password <;> cases generate <;> simp [messages, messagesWith, isEmpty]

end FieldErrors

end QuizOverrides
