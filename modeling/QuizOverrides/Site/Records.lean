import QuizOverrides.Override.Mode
import QuizOverrides.Csv.Delimiter
import QuizOverrides.Number.Whole
import QuizOverrides.Payload.Basic
import QuizOverrides.Text.Blank

set_option autoImplicit false

/-!
# Records of a site

The rows of the tables other than overrides: users, groups of a course, quizzes, batches of
uploaded rows that wait for their confirmation, and the audit trail.

## Main definitions

* `QuizOverrides.User`, `QuizOverrides.CourseGroup`, `QuizOverrides.Quiz`.
* `QuizOverrides.Batch` — an uploaded text between its preview and its commit.
* `QuizOverrides.AuditEntry` — what is reported to the audit trail; `QuizOverrides.AuditRow` what is
  kept of it.
* `QuizOverrides.ImportOptions` — the settings of imports.
-/

namespace QuizOverrides

open Calendar

/-- **A user**, with the number the institution gave them. -/
structure User where
  id : String
  username : String
  idNumber : Option String
  firstName : Option String
  lastName : Option String
deriving DecidableEq, Repr, Inhabited

/-- The name shown for a user: first and last name, or the user name if there is neither. -/
def User.displayName (u : User) : String :=
  let name := Text.trim (u.firstName.getD "" ++ " " ++ u.lastName.getD "")
  if name = "" then u.username else name

/-- **A group** of a course. -/
structure CourseGroup where
  id : String
  courseId : String
  name : String
  idNumber : Option String
deriving DecidableEq, Repr, Inhabited

/-- **A quiz** of a course, with the code of the course if that is known. The service gives every
quiz a name; one that others put into the table may have none. -/
structure Quiz where
  id : String
  courseId : String
  name : Option String
  courseCode : Option String
deriving DecidableEq, Repr, Inhabited

/-- Passwords generated for rows of a file, by the number of the row. -/
abbrev RowPasswords := List (Nat × String)

/-- **A batch**: the text of an upload that was previewed, with the passwords that the preview
showed. It was made at an instant, unless the clock was too far off to show one. -/
structure Batch where
  id : String
  quizId : String
  mode : Mode
  delimiter : Csv.DelimiterChoice
  content : String
  passwords : RowPasswords
  createdAt : Option Instant
deriving Repr, Inhabited

/-- **The trace of an error**: the call stack of an error that was raised, or a text that stands for
one. -/
inductive Trace where
  | callStack
  | text (value : String)
deriving DecidableEq, Repr, Inhabited

/-- **A report to the audit trail.** Any part of it may be left out; it is kept as it was made. -/
structure AuditEntry where
  action : Option Payload := none
  component : Option Payload := none
  level : Option Payload := none
  entityId : Option Payload := none
  entityType : Option Payload := none
  newValues : Option Payload := none
  metadata : Option Payload := none
  ipAddress : Option Payload := none
  userAgent : Option Payload := none
  errorMessage : Option Payload := none
  trace : Field Trace := .absent
deriving Repr, Inhabited

/-- **A row of the audit trail**: the report with the instant at which it was saved. -/
structure AuditRow where
  entry : AuditEntry
  savedAt : Instant
deriving Repr, Inhabited

/-- **The settings of imports**: the length of generated passwords, the minutes for which a batch
may be committed, and the zone in which exported times are written. -/
structure ImportOptions where
  passwordLength : Int
  batchMinutes : Whole
  timeZone : String
deriving DecidableEq, Repr

/-- The settings of a site that has none of its own. -/
def ImportOptions.standard : ImportOptions :=
  ⟨20, .finite 60, "UTC"⟩

/-- The default options are the standard ones. -/
instance : Inhabited ImportOptions := ⟨ImportOptions.standard⟩

end QuizOverrides
