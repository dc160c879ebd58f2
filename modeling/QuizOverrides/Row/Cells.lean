import QuizOverrides.Override.Basic
import QuizOverrides.Calendar.Stamp

set_option autoImplicit false

/-!
# Cells of a row

A row of an import file has nine cells: three that name a user or a group, five with the settings of
an override, and one that asks for a generated password. The header of the file names the columns,
and depends on the kind of subject.

## Main definitions

* `QuizOverrides.Cells` — the cells of a row.
* `QuizOverrides.Cells.ofRecord` and `QuizOverrides.Cells.toRecord`.
* `QuizOverrides.header` — the column names of a file.
* `QuizOverrides.Cells.isBlank` — no cell asks for a setting.
-/

namespace QuizOverrides

/-- **The cells of a row.** -/
structure Cells where
  subjectId : String
  subjectIdNumber : String
  subjectName : String
  timeOpen : String
  timeClose : String
  timeLimit : String
  attempts : String
  password : String
  generate : String
deriving DecidableEq, Repr, Inhabited

namespace Cells

/-- **The cells of a record**, by their places; a missing cell is empty. -/
def ofRecord (record : List String) : Cells :=
  let cell (i : Nat) : String := record.getD i ""
  ⟨cell 0, cell 1, cell 2, cell 3, cell 4, cell 5, cell 6, cell 7, cell 8⟩

/-- The record of the cells. -/
def toRecord (c : Cells) : List String :=
  [c.subjectId, c.subjectIdNumber, c.subjectName, c.timeOpen, c.timeClose, c.timeLimit,
    c.attempts, c.password, c.generate]

/-- What a cell says to have a password generated. -/
def generateYes : String := "1"

/-- What a cell says to have none generated; it is as good as an empty cell. -/
def generateNo : String := "0"

/-- **A blank row**: no cell asks for a setting. -/
def isBlank (c : Cells) : Bool :=
  c.timeOpen == "" && c.timeClose == "" && c.timeLimit == "" && c.attempts == ""
    && c.password == "" && (c.generate == "" || c.generate == generateNo)

/-- The cells of a record of nine are that record again. -/
theorem toRecord_ofRecord {record : List String} (h : record.length = 9) :
    (ofRecord record).toRecord = record := by
  match record, h with
  | [_, _, _, _, _, _, _, _, _], _ => rfl

end Cells

/-! ## Columns -/

/-- The name of the column that holds the identifier of the subject, which also names the errors
about the subject. -/
def SubjectKind.idColumn : SubjectKind → String
  | .user => "userid"
  | .group => "groupid"

/-- The columns of the settings. -/
def valueColumns : List String :=
  ["timeopen", "timeclose", "timelimit", "attempts", "password", "generate"]

/-- **The column names** of an import file. -/
def header : SubjectKind → List String
  | .user => ["userid", "useridnumber", "username"] ++ valueColumns
  | .group => ["groupid", "groupidnumber", "groupname"] ++ valueColumns

/-! ## Limits -/

/-- The largest time limit and number of attempts. -/
def maxInteger : Nat := 2147483647

/-- The largest length of a password, in code units. -/
def maxPasswordLength : Nat := 255

/-- The pattern in which the format of date-time cells is published. -/
def stampPattern : String := "yyyy-MM-dd HH:mm ZZ"

end QuizOverrides
