set_option autoImplicit false

/-!
# Tables of the database

The tables in which a site keeps its records: their columns, the references between them, their
indices and the one check that an override has exactly one subject.

## Main definitions

* `QuizOverrides.Schema.Column`, `QuizOverrides.Schema.Reference`, `QuizOverrides.Schema.Index`,
  `QuizOverrides.Schema.Check` — the parts of a table.
* `QuizOverrides.Schema.TableDef` — a table.
* `QuizOverrides.Schema.users` to `QuizOverrides.Schema.logs` — the seven tables.
-/

namespace QuizOverrides.Schema

/-- **A column.** The values of an enumeration are listed in `values`. -/
structure Column where
  name : String
  type : String
  length : Option Nat := none
  initial : Option String := none
  isPrimary : Bool := false
  isNullable : Bool := false
  isUnique : Bool := false
  values : Option (List String) := none
  generation : Option String := none
deriving DecidableEq, Repr

/-- **A reference** to the rows of another table, with what is done when such a row is deleted. -/
structure Reference where
  columns : List String
  table : String
  targets : List String
  onDelete : String
deriving DecidableEq, Repr

/-- **An index** over columns. -/
structure Index where
  name : String
  columns : List String
deriving DecidableEq, Repr

/-- **A check** that every row has to pass. -/
structure Check where
  name : String
  expression : String
deriving DecidableEq, Repr

/-- **A table.** -/
structure TableDef where
  name : String
  columns : List Column
  references : List Reference := []
  indices : List Index := []
  checks : List Check := []
deriving DecidableEq, Repr

/-! ## Kinds of columns -/

/-- The identifier of a row, which the database generates. -/
def idColumn : Column :=
  { name := "id", type := "uuid", isPrimary := true, generation := some "uuid"
    initial := some "uuid_generate_v4()" }

/-- A text. -/
def textColumn (name : String) : Column :=
  { name, type := "varchar" }

/-- A text of limited length. -/
def shortColumn (name : String) (length : Nat) : Column :=
  { name, type := "varchar", length := some length }

/-- The identifier of a row of another table. -/
def keyColumn (name : String) : Column :=
  { name, type := "uuid" }

/-- A whole number. -/
def integerColumn (name : String) : Column :=
  { name, type := "integer" }

/-- An instant. -/
def instantColumn (name : String) : Column :=
  { name, type := "timestamptz" }

/-- The time at which a row was written, by the clock of the database. -/
def writtenColumn (name : String) : Column :=
  { name, type := "timestamp", initial := some "now()" }

/-- A structured value. -/
def jsonColumn (name : String) : Column :=
  { name, type := "json" }

/-- One of listed values. -/
def choiceColumn (name : String) (values : List String) : Column :=
  { name, type := "enum", values := some values }

/-- The column, in which a value may be missing. -/
def Column.orNull (c : Column) : Column := { c with isNullable := true }

/-- The column, in which no value occurs twice. -/
def Column.distinct (c : Column) : Column := { c with isUnique := true }

/-- The column, with a value for rows that give none. -/
def Column.orElse (c : Column) (initial : String) : Column := { c with initial := some initial }

/-- A reference by one column to the identifiers of a table, whose rows take the referring rows with
them. -/
def ownedBy (column table : String) : Reference :=
  { columns := [column], table, targets := ["id"], onDelete := "CASCADE" }

/-! ## The tables -/

/-- **Users.** -/
def users : TableDef :=
  { name := "users"
    columns :=
      [idColumn, (textColumn "username").distinct, (shortColumn "idNumber" 100).orNull,
        textColumn "firstName", textColumn "lastName", (shortColumn "email" 255).distinct.orNull,
        writtenColumn "createdAt"] }

/-- **Courses.** -/
def courses : TableDef :=
  { name := "courses"
    columns := [idColumn, textColumn "code", textColumn "name", writtenColumn "createdAt"] }

/-- **Groups of a course.** -/
def courseGroups : TableDef :=
  { name := "course_groups"
    columns :=
      [idColumn, keyColumn "courseId", textColumn "name", (shortColumn "idNumber" 100).orNull]
    references := [ownedBy "courseId" "courses"]
    indices := [⟨"IDX_course_groups_courseId", ["courseId"]⟩] }

/-- **Quizzes**, with the values that hold where no override says otherwise. -/
def quizzes : TableDef :=
  { name := "quizzes"
    columns :=
      [idColumn, keyColumn "courseId", textColumn "name", (instantColumn "timeOpen").orNull,
        (instantColumn "timeClose").orNull, (integerColumn "timeLimit").orNull,
        (integerColumn "attempts").orNull]
    references := [ownedBy "courseId" "courses"] }

/-- **Overrides**, each for a user or for a group. -/
def quizOverrides : TableDef :=
  { name := "quiz_overrides"
    columns :=
      [idColumn, keyColumn "quizId", (keyColumn "userId").orNull, (keyColumn "groupId").orNull,
        (instantColumn "timeOpen").orNull, (instantColumn "timeClose").orNull,
        (integerColumn "timeLimit").orNull, (integerColumn "attempts").orNull,
        (shortColumn "password" 255).orNull]
    references := [ownedBy "quizId" "quizzes"]
    checks :=
      [⟨"CHK_quiz_overrides_one_subject", "(\"userId\" IS NULL) <> (\"groupId\" IS NULL)"⟩] }

/-- The indices of overrides, which are made after the table. -/
def quizOverrideIndices : List Index :=
  [⟨"IDX_quiz_overrides_quiz_user", ["quizId", "userId"]⟩,
    ⟨"IDX_quiz_overrides_quiz_group", ["quizId", "groupId"]⟩]

/-- **Batches of uploaded rows.** -/
def importBatches : TableDef :=
  { name := "override_import_batches"
    columns :=
      [idColumn, keyColumn "quizId", choiceColumn "mode" ["user", "group"],
        (shortColumn "delimiter" 20).orElse "'comma'", { name := "content", type := "text" },
        (jsonColumn "generatedPasswords").orElse "'\x7b\x7d'",
        (instantColumn "createdAt").orElse "now()"]
    references := [ownedBy "quizId" "quizzes"]
    indices := [⟨"IDX_override_import_batches_quizId", ["quizId"]⟩] }

/-- **The audit trail.** -/
def logs : TableDef :=
  { name := "logs"
    columns :=
      [idColumn, textColumn "action", shortColumn "module" 50,
        (choiceColumn "level" ["info", "warn", "error", "debug"]).orElse "'info'",
        (textColumn "entityId").orNull, (textColumn "entityType").orNull,
        (jsonColumn "newValues").orNull, (jsonColumn "metadata").orNull,
        writtenColumn "timestamp", (textColumn "ipAddress").orNull,
        (textColumn "userAgent").orNull]
    indices := [⟨"IDX_logs_entity", ["entityType", "entityId"]⟩] }

end QuizOverrides.Schema
