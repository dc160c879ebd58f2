import QuizOverrides.Schema.Entity
import QuizOverrides.Schema.Migration

set_option autoImplicit false

/-!
# Descriptions of the schema

Tables, migration steps and entities as payloads, in the words of the tool that works on the
database.

## Main definitions

* `QuizOverrides.Schema.TableDef.payload` — the description of a table.
* `QuizOverrides.Schema.MigrationStep.payload` — the description of a step.
* `QuizOverrides.Schema.Entity.payload` — the description of a mapping.
-/

namespace QuizOverrides.Schema

/-- A list of texts as a payload. -/
def textList (texts : List String) : Payload := .list (texts.map .text)

/-- A condition as a payload, which is said only if it is made. -/
def condition (b : Bool) : Payload := if b then .bool true else .null

/-- A flag that is said only if it is set. -/
def flag (b : Bool) : Option Payload := if b then some (.bool true) else none

/-! ## Tables -/

/-- The description of a column. -/
def Column.payload (c : Column) : Payload :=
  .ofGiven
    [("name", some (.text c.name)), ("type", some (.text c.type)),
      ("length", some (.text ((c.length.map fun n => Text.intText n).getD ""))),
      ("default", c.initial.map .text), ("isPrimary", some (.bool c.isPrimary)),
      ("isNullable", some (.bool c.isNullable)), ("isUnique", some (.bool c.isUnique)),
      ("enum", c.values.map textList), ("generationStrategy", c.generation.map .text)]

/-- The description of a reference. -/
def Reference.payload (r : Reference) : Payload :=
  .record
    [("columnNames", textList r.columns), ("referencedTableName", .text r.table),
      ("referencedColumnNames", textList r.targets), ("onDelete", .text r.onDelete)]

/-- The description of an index. -/
def Index.payload (i : Index) : Payload :=
  .record [("name", .text i.name), ("columnNames", textList i.columns)]

/-- The description of a check. -/
def Check.payload (c : Check) : Payload :=
  .record [("name", .text c.name), ("expression", .text c.expression)]

/-- **The description of a table.** -/
def TableDef.payload (t : TableDef) : Payload :=
  .record
    [("name", .text t.name), ("columns", .list (t.columns.map (·.payload))),
      ("foreignKeys", .list (t.references.map (·.payload))),
      ("indices", .list (t.indices.map (·.payload))),
      ("checks", .list (t.checks.map (·.payload)))]

/-- **The description of a step**: what is done, and what to. -/
def MigrationStep.payload : MigrationStep → Payload
  | query statement => textList ["query", statement]
  | hasTable name => textList ["hasTable", name]
  | createTable table ifMissing =>
    .list [.text "createTable", table.payload, condition ifMissing]
  | createIndices table indices =>
    .list [.text "createIndices", .text table, .list (indices.map (·.payload))]
  | dropTable name ifPresent => .list [.text "dropTable", .text name, condition ifPresent]

/-! ## Entities -/

/-- The description of a property. -/
def Property.payload (p : Property) : Payload :=
  .ofGiven
    [("property", some (.text p.name)),
      ("mode", some (.text (if p.isCreationTime then "createDate" else "regular"))),
      ("type", some (.ofText? p.type)), ("length", p.length.map .ofNat),
      ("nullable", flag p.isNullable), ("unique", flag p.isUnique), ("primary", flag p.isPrimary),
      ("enum", p.values), ("default", p.initial)]

/-- The description of a relation. -/
def Relation.payload (r : Relation) : Payload :=
  .record
    [("property", .text r.property), ("kind", .text r.kind), ("target", .text r.target),
      ("inverse", .ofText? r.inverse), ("onDelete", .ofText? r.onDelete)]

/-- **The description of a mapping.** -/
def Entity.payload (e : Entity) : Payload :=
  let pairs (ps : List (String × String)) : Payload := .list (ps.map fun p => textList [p.1, p.2])
  .record
    [("table", textList [e.table.name]), ("columns", .list (e.properties.map (·.payload))),
      ("generations", pairs e.generated), ("relations", .list (e.relations.map (·.payload))),
      ("joinColumns", pairs e.joins), ("indices", .list (e.indices.map textList))]

end QuizOverrides.Schema
