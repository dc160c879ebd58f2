import QuizOverrides.Calendar.Instant
import QuizOverrides.Field
import QuizOverrides.Number.Whole

set_option autoImplicit false

/-!
# Overrides

An override replaces settings of a quiz for one user or for one group of the course: when the quiz
opens and closes, how long an attempt may take, how many attempts are allowed, and its password.

## Main definitions

* `QuizOverrides.SubjectKind` — users or groups.
* `QuizOverrides.OverrideValues` — the replaced settings.
* `QuizOverrides.OverrideData` — the settings with the quiz and the subject they are for.
* `QuizOverrides.Override` — an override of the table; `QuizOverrides.OverrideDraft` one that may
  not be in the table yet.
-/

namespace QuizOverrides

open Calendar

/-- **The kind of subject** that an override is for. -/
inductive SubjectKind where
  | user
  | group
deriving DecidableEq, Repr, Inhabited

namespace SubjectKind

/-- The word for the kind. -/
def name : SubjectKind → String
  | user => "user"
  | group => "group"

/-- The kind of a word. -/
def ofName? : String → Option SubjectKind
  | "user" => some user
  | "group" => some group
  | _ => none

end SubjectKind

/-- **The settings** that an override replaces; a missing one keeps that of the quiz. The time limit
is in seconds. -/
structure OverrideValues where
  timeOpen : Option Instant
  timeClose : Option Instant
  timeLimit : Option Whole
  attempts : Option Whole
  password : Option String
deriving DecidableEq, Repr, Inhabited

/-- **What an override says**: its quiz, the user or the group it is for, and the settings.
Overrides of the service name a quiz; what others put into the table need not. -/
structure OverrideData where
  quizId : Field String
  userId : Option String
  groupId : Option String
  values : OverrideValues
deriving DecidableEq, Repr, Inhabited

namespace OverrideData

/-- The subject of the given kind, if the override has one. -/
def subject (d : OverrideData) : SubjectKind → Option String
  | .user => d.userId
  | .group => d.groupId

/-- The data of an override of a quiz for a subject that may be unknown. -/
def forSubject (quizId : Field String) (kind : SubjectKind) (subject : Option String)
    (values : OverrideValues) : OverrideData :=
  match kind with
  | .user => ⟨quizId, subject, none, values⟩
  | .group => ⟨quizId, none, subject, values⟩

/-- The data without a subject. -/
def withoutSubject (d : OverrideData) : OverrideData := ⟨d.quizId, none, none, d.values⟩

end OverrideData

/-- **An override of the table.** The service gives every override an identifier; one that others
put into the table may have none. -/
structure Override where
  id : Option String
  data : OverrideData
deriving DecidableEq, Repr, Inhabited

/-- **An override to be written.** Without an identifier it is not in the table yet. -/
structure OverrideDraft where
  id : Option String
  data : OverrideData
deriving DecidableEq, Repr, Inhabited

/-- **What becomes of the override of a row.** -/
inductive OverrideAction where
  | insert
  | update
  | delete
  | skip
deriving DecidableEq, Repr, Inhabited

/-- The word for an action. -/
def OverrideAction.name : OverrideAction → String
  | insert => "insert"
  | update => "update"
  | delete => "delete"
  | skip => "skip"

end QuizOverrides
