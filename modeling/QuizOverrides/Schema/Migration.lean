import QuizOverrides.Schema.Table

set_option autoImplicit false

/-!
# Migration

The steps that make the tables of a site, and those that drop them again. Users and the audit trail
may be there already, made for others: they are made only if they are missing and never dropped.

## Main definitions

* `QuizOverrides.Schema.MigrationStep` — a step.
* `QuizOverrides.Schema.upgrade` and `QuizOverrides.Schema.downgrade` — the two directions.
-/

namespace QuizOverrides.Schema

/-- **A step of a migration.** A table may be made on condition that it is missing, and dropped on
condition that it is there. -/
inductive MigrationStep where
  | query (statement : String)
  | hasTable (name : String)
  | createTable (table : TableDef) (ifMissing : Bool)
  | createIndices (table : String) (indices : List Index)
  | dropTable (name : String) (ifPresent : Bool)
deriving DecidableEq, Repr

/-- The name of the migration. -/
def migrationName : String := "CreateQuizOverrideTables1767225600000"

/-- Makes a table that others may have made. -/
def createShared (existing : List String) (table : TableDef) : List MigrationStep :=
  .hasTable table.name :: if existing.contains table.name then [] else [.createTable table false]

/-- **The steps that make the tables**, given the tables that are there. A table follows those that
it refers to. -/
def upgrade (existing : List String) : List MigrationStep :=
  [.query "CREATE EXTENSION IF NOT EXISTS \"uuid-ossp\""]
    ++ createShared existing users
    ++ [.createTable courses true, .createTable courseGroups true, .createTable quizzes true,
      .createTable quizOverrides true, .createIndices quizOverrides.name quizOverrideIndices,
      .createTable importBatches true]
    ++ createShared existing logs

/-- **The steps that drop the tables**, the last one made first. -/
def downgrade : List MigrationStep :=
  [importBatches, quizOverrides, quizzes, courseGroups, courses].map (.dropTable ·.name true)

end QuizOverrides.Schema
