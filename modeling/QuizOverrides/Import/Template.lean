import QuizOverrides.Row.Cells
import QuizOverrides.Csv.Writer
import QuizOverrides.Site.Overrides
import QuizOverrides.Site.Tables

set_option autoImplicit false

/-!
# Templates

A template is an import file with the overrides that a quiz has, for users to edit and upload again.
For users it lists those with an override; for groups it lists all groups of the course.

## Main definitions

* `QuizOverrides.Template` — the name and the text of the file.
* `QuizOverrides.Template.rows` — the rows under the header.
* `QuizOverrides.Template.build` — the template of a quiz.
-/

namespace QuizOverrides

open Calendar

/-- **A template**: the name of the file and its text. -/
structure Template where
  fileName : String
  content : String
deriving DecidableEq, Repr

namespace Template

/-- The cell of a time in a zone. -/
def timeCell (zone : Option Zone) (time : Option Instant) : String :=
  (time.map fun i => formatStamp i zone).getD ""

/-- The cell of a number. -/
def numberCell (n : Option Whole) : String := (n.map Whole.text).getD ""

/-- **The cells of settings**; a password is never asked for. -/
def valueCells (zone : Option Zone) (v : OverrideValues) : List String :=
  [timeCell zone v.timeOpen, timeCell zone v.timeClose, numberCell v.timeLimit,
    numberCell v.attempts, v.password.getD "", ""]

/-- The cells of a subject without an override. -/
def blankCells : List String := ["", "", "", "", "", ""]

/-- The override of a subject among those of a quiz; of several the last counts. -/
def overrideOf? (kind : SubjectKind) (subject : String) (overrides : List Override) :
    Option Override :=
  if subject = "" then none
  else overrides.reverse.find? fun o => o.data.subject kind == some subject

/-- The subjects that have an override. -/
def subjects (kind : SubjectKind) (overrides : List Override) : List String :=
  overrides.filterMap fun o => given? (o.data.subject kind)

/-- The rows of users with an override. Without any override no user is looked up. -/
def userRows (zone : Option Zone) (overrides : List Override) :
    Action StorageError (List (List String)) := do
  let ids := subjects .user overrides
  if ids.isEmpty then pure []
  else
    let users ← Directory.usersOf ids
    pure (users.filterMap fun u =>
      (overrideOf? .user u.id overrides).map fun o =>
        [u.id, u.idNumber.getD "", u.username] ++ valueCells zone o.data.values)

/-- The rows of all groups of a course. -/
def groupRows (zone : Option Zone) (courseId : String) (overrides : List Override) :
    Action StorageError (List (List String)) := do
  let groups ← Directory.groupsOf courseId
  pure (groups.map fun g =>
    [g.id, g.idNumber.getD "", g.name] ++
      match overrideOf? .group g.id overrides with
      | some o => valueCells zone o.data.values
      | none => blankCells)

/-- **The rows** of a template, without the header. -/
def rows (quiz : Quiz) (kind : SubjectKind) : Action StorageError (List (List String)) := do
  let overrides ← Overrides.list (.given quiz.id)
  let zone := (← get).templateZone
  match kind with
  | .user => userRows zone overrides
  | .group => groupRows zone quiz.courseId overrides

/-- What the file of a quiz is named after: the code of its course, or its own name. -/
def stem (quiz : Quiz) : String :=
  (given? quiz.courseCode).getD (Field.ofOption quiz.name).text

/-- **The template** of rows under a header, for subjects called by the given word. -/
def ofRows (quiz : Quiz) (word : String) (header : List String) (rows : List (List String)) :
    Template :=
  { fileName := s!"{stem quiz}-{word}-overrides-template.csv"
    content := Csv.write (header :: rows) }

/-- **The template of a quiz.** -/
def build (quiz : Quiz) (kind : SubjectKind) : Action StorageError Template := do
  pure (.ofRows quiz kind.name (header kind) (← rows quiz kind))

end Template

end QuizOverrides
