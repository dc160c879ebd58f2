import QuizOverrides.Site.Basic

set_option autoImplicit false

/-!
# The table of overrides

Looking up, listing, inserting, updating and deleting overrides, and transactions over them. Each
operation is one access to the table and may meet a fault before it does anything.

## Main definitions

* `QuizOverrides.OverrideFilter` — which overrides are meant.
* `QuizOverrides.Overrides.exists?`, `get?`, `list` — reading.
* `QuizOverrides.Overrides.insert`, `update`, `delete` — writing.
* `QuizOverrides.Overrides.transaction` — all or nothing, as far as versions of the table go;
  `transactionWithin` — the same where another may have begun.

## Design

A transaction that fails is rolled back in the way of the storage. Where storage returns to rows the
table is as it was. Where it returns to a version, updates and deletions are taken back, and inserts
that came after one of them; inserts that came before have extended the version that the transaction
returns to, and stay.
-/

namespace QuizOverrides

/-! ## Tables as lists -/

/-- **Which overrides are meant**: those of a quiz, and of a user or a group if the field is not
left out. -/
structure OverrideFilter where
  quizId : Field String
  userId : Field String := .absent
  groupId : Field String := .absent
deriving DecidableEq, Repr

namespace OverrideFilter

/-- The overrides of a quiz for one subject. -/
def forSubject (quizId : Field String) (kind : SubjectKind) (subject : String) : OverrideFilter :=
  match kind with
  | .user => ⟨quizId, .given subject, .absent⟩
  | .group => ⟨quizId, .absent, .given subject⟩

/-- A column is as a filter wants it: any column if the field of the filter is left out. -/
def wants (field : Field String) (column : Option String) : Bool :=
  field == .absent || field.holds column

/-- The override is meant: it has all that the filter names. -/
def admits (f : OverrideFilter) (o : Override) : Bool :=
  sameId o.data.quizId f.quizId
    && wants f.userId o.data.userId && wants f.groupId o.data.groupId

end OverrideFilter

/-- **A row put into a table**: in the place of the row with its key, or at the end. -/
def putRow {α κ : Type} [BEq κ] (key : α → κ) (row : α) (rows : List α) : List α :=
  if rows.any fun r => key r == key row then
    rows.map fun r => if key r == key row then row else r
  else rows ++ [row]

/-- The overrides with the data of those of an identifier replaced. -/
def replaceData (id : Field String) (data : OverrideData) (rows : List Override) :
    List Override :=
  rows.map fun o => if id.holds o.id then ⟨o.id, data⟩ else o

/-- The overrides without those of an identifier. -/
def removeId (id : Field String) (rows : List Override) : List Override :=
  rows.filter fun o => !id.holds o.id

/-- The table holds an override of the identifier. -/
def hasId (id : Field String) (rows : List Override) : Bool :=
  rows.any fun o => id.holds o.id

/-- The identifier that the `n`-th generated override receives. -/
def generatedId (n : Nat) : String :=
  "override-" ++ Text.intText n

namespace Site

/-- The site with an override put into its table. -/
def putOverride (site : Site) (o : Override) : Site :=
  { site with overrides := putRow Override.id o site.overrides }

/-- The site with a new version of its overrides. -/
def supersede (site : Site) (rows : List Override) : Site :=
  { site with overrides := rows, superseded := site.overrides :: site.superseded }

/-- The number of the current version of the overrides. -/
def version (site : Site) : Nat := site.superseded.length

/-- The overrides of a version, as they were when it was superseded, or as they are now. -/
def overridesAt (site : Site) (version : Nat) : List Override :=
  if version < site.version then site.superseded.getD (site.version - 1 - version) []
  else site.overrides

/-- **The site returned to a version** of its overrides. -/
def returnTo (site : Site) (version : Nat) : Site :=
  { site with
    overrides := site.overridesAt version
    superseded := site.superseded.drop (site.version - version) }

/-- **The site after a failed transaction** that began on the site `start`. -/
def rolledBack (site start : Site) : Site :=
  match site.rollback with
  | .rows => { site.returnTo start.version with overrides := start.overrides }
  | .version => site.returnTo start.version

end Site

namespace Overrides

/-! ## Reading -/

/-- There is an override that the filter means. -/
def exists? (filter : OverrideFilter) : Action StorageError Bool := do
  access .overrides .count
  pure ((← get).overrides.any filter.admits)

/-- **The first override** that the filter means. -/
def get? (filter : OverrideFilter) : Action StorageError (Option Override) := do
  access .overrides .findOne
  pure ((← get).overrides.find? filter.admits)

/-- All overrides of a quiz, in the order of the table. -/
def list (quizId : Field String) : Action StorageError (List Override) := do
  access .overrides .find
  pure ((← get).overrides.filter fun o => sameId o.data.quizId quizId)

/-! ## Writing -/

/-- **Inserting** an override under the next generated identifier, which is returned. -/
def insert (data : OverrideData) : Action StorageError String := do
  access .overrides .save
  let site ← get
  let id := generatedId (site.overrideCount + 1)
  set { site.putOverride ⟨some id, data⟩ with overrideCount := site.overrideCount + 1 }
  pure id

/-- **Updating** an override: its data are replaced. An override that is not there cannot be
updated. -/
def update (id : Field String) (data : OverrideData) : Action StorageError Unit := do
  access .overrides .update
  let site ← get
  set (site.supersede (replaceData id data site.overrides))
  unless hasId id site.overrides do throw (.overrideGone id)

/-- **Deleting** an override. An override that is not there cannot be deleted. -/
def delete (id : Field String) : Action StorageError Unit := do
  access .overrides .delete
  let site ← get
  set (site.supersede (removeId id site.overrides))
  unless hasId id site.overrides do throw (.overrideGone id)

/-! ## Transactions -/

/-- **A transaction**: it is counted, may fail to begin, and then does its work. If the work throws
it is rolled back and the error is passed on. -/
def transaction {ε α : Type} (lift : StorageError → ε) (work : Action ε α) : Action ε α :=
  ExceptT.mk do
    modify fun site => { site with transactions := site.transactions + 1 }
    match ← (access .transactions .begin).run with
    | .error e => pure (.error (lift e))
    | .ok () =>
      let start ← get
      match ← work.run with
      | .ok a => pure (.ok a)
      | .error e =>
        modify fun site => site.rolledBack start
        pure (.error e)

/-- **A transaction that may be within another.** Within another it is a part of that one: it does
its work, and what becomes of the work is left to the other. -/
def transactionWithin {ε α : Type} (inside : Bool) (lift : StorageError → ε) (work : Action ε α) :
    Action ε α :=
  if inside then work else transaction lift work

end Overrides

end QuizOverrides
