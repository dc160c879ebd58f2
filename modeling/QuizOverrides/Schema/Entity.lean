import QuizOverrides.Payload.Basic
import QuizOverrides.Schema.Table

set_option autoImplicit false

/-!
# Entities

How the records of a site are mapped to its tables: the properties that are columns, those that are
generated, the relations between records, and the indices.

## Main definitions

* `QuizOverrides.Schema.Property` — a mapped property.
* `QuizOverrides.Schema.Relation` — a relation to other records.
* `QuizOverrides.Schema.Entity` — the mapping of one kind of record.
* `QuizOverrides.Schema.entities` — the mappings by the names of the records.
-/

namespace QuizOverrides.Schema

/-- **A mapped property.** The type may be left open for the time of creation. What is not said of a
property is left to the database. -/
structure Property where
  name : String
  isCreationTime : Bool := false
  type : Option String
  length : Option Nat := none
  isNullable : Bool := false
  isUnique : Bool := false
  isPrimary : Bool := false
  values : Option Payload := none
  initial : Option Payload := none
deriving Repr

/-- **A relation** to records of a kind, with the property that leads back from them. -/
structure Relation where
  property : String
  kind : String
  target : String
  inverse : Option String := none
  onDelete : Option String := none
deriving DecidableEq, Repr

/-- **The mapping of one kind of record.** -/
structure Entity where
  table : TableDef
  properties : List Property
  generated : List (String × String) := [("id", "uuid")]
  relations : List Relation := []
  joins : List (String × String) := []
  indices : List (List String) := []
deriving Repr

/-! ## Kinds of properties -/

/-- The identifier of a record. -/
def idProperty : Property :=
  { name := "id", type := some "uuid", isPrimary := true }

/-- A text, whose type follows from its values. -/
def textProperty (name : String) : Property :=
  { name, type := some "String" }

/-- A property of a named type. -/
def typedProperty (name type : String) : Property :=
  { name, type := some type }

/-- The time at which a record was written. -/
def createdProperty (name : String) (type : Option String) : Property :=
  { name, isCreationTime := true, type }

/-- The property, which may be missing. -/
def Property.orNull (p : Property) : Property := { p with isNullable := true }

/-- The property, with values of limited length. -/
def Property.upTo (p : Property) (length : Nat) : Property := { p with length := some length }

/-- The property, in which no value occurs twice. -/
def Property.distinct (p : Property) : Property := { p with isUnique := true }

/-- A relation to the one record that owns this one. -/
def owner (property target : String) (inverse : Option String) : Relation :=
  { property, kind := "many-to-one", target, inverse, onDelete := some "CASCADE" }

/-- A relation to the records that this one owns. -/
def owned (property target inverse : String) : Relation :=
  { property, kind := "one-to-many", target, inverse := some inverse }

/-! ## The mappings -/

/-- **Users.** -/
def userEntity : Entity :=
  { table := users
    properties :=
      [idProperty, (textProperty "username").distinct,
        ((typedProperty "idNumber" "varchar").upTo 100).orNull, textProperty "firstName",
        textProperty "lastName", ((typedProperty "email" "varchar").upTo 255).distinct.orNull,
        createdProperty "createdAt" none] }

/-- **Courses.** -/
def courseEntity : Entity :=
  { table := courses
    properties :=
      [idProperty, textProperty "code", textProperty "name", createdProperty "createdAt" none]
    relations := [owned "groups" "CourseGroup" "course"] }

/-- **Groups of a course.** -/
def courseGroupEntity : Entity :=
  { table := courseGroups
    properties :=
      [idProperty, typedProperty "courseId" "uuid", textProperty "name",
        ((typedProperty "idNumber" "varchar").upTo 100).orNull]
    relations := [owner "course" "Course" (some "groups")]
    joins := [("course", "courseId")]
    indices := [["courseId"]] }

/-- The properties in which a quiz or an override holds its times and numbers. -/
def limitProperties : List Property :=
  [(typedProperty "timeOpen" "timestamptz").orNull,
    (typedProperty "timeClose" "timestamptz").orNull,
    (typedProperty "timeLimit" "integer").orNull,
    (typedProperty "attempts" "integer").orNull]

/-- **Quizzes.** -/
def quizEntity : Entity :=
  { table := quizzes
    properties :=
      [idProperty, typedProperty "courseId" "uuid", textProperty "name"] ++ limitProperties
    relations := [owner "course" "Course" none, owned "overrides" "QuizOverride" "quiz"]
    joins := [("course", "courseId")] }

/-- **Overrides.** -/
def quizOverrideEntity : Entity :=
  { table := quizOverrides
    properties :=
      [idProperty, typedProperty "quizId" "uuid", (typedProperty "userId" "uuid").orNull,
        (typedProperty "groupId" "uuid").orNull]
        ++ limitProperties
        ++ [((typedProperty "password" "varchar").upTo 255).orNull]
    relations := [owner "quiz" "Quiz" (some "overrides")]
    joins := [("quiz", "quizId")]
    indices := (quizOverrideIndices.map (·.columns)).reverse }

/-- **Batches of uploaded rows.** -/
def importBatchEntity : Entity :=
  { table := importBatches
    properties :=
      [idProperty, typedProperty "quizId" "uuid",
        { typedProperty "mode" "enum" with
          values := some (.record [("User", .text "user"), ("Group", .text "group")]) },
        { (typedProperty "delimiter" "varchar").upTo 20 with initial := some (.text "comma") },
        typedProperty "content" "text",
        { typedProperty "generatedPasswords" "json" with initial := some (.record []) },
        createdProperty "createdAt" (some "timestamptz")]
    indices := [["quizId"]] }

/-- **The audit trail.** -/
def logEntity : Entity :=
  { table := logs
    properties :=
      [idProperty, textProperty "action", (textProperty "module").upTo 50,
        { typedProperty "level" "enum" with
          values := some (.list (["info", "warn", "error", "debug"].map .text))
          initial := some (.text "info") },
        (typedProperty "entityId" "varchar").orNull, (typedProperty "entityType" "varchar").orNull,
        (typedProperty "newValues" "json").orNull, (typedProperty "metadata" "json").orNull,
        createdProperty "timestamp" none, (typedProperty "ipAddress" "varchar").orNull,
        (typedProperty "userAgent" "varchar").orNull]
    indices := [["entityType", "entityId"]] }

/-- **The mappings** by the names of the records. -/
def entities : List (String × Entity) :=
  [("User", userEntity), ("Course", courseEntity), ("CourseGroup", courseGroupEntity),
    ("Quiz", quizEntity), ("QuizOverride", quizOverrideEntity),
    ("OverrideImportBatch", importBatchEntity), ("Log", logEntity)]

/-- The mapping of the records of a name. -/
def entity? (name : String) : Option Entity :=
  entities.lookup name

end QuizOverrides.Schema
