import QuizOverrides.Row.Validation
import QuizOverrides.Site.Overrides
import QuizOverrides.Password

set_option autoImplicit false

/-!
# Reconciliation of a row

A validated row is compared with the override that its subject has, which decides what becomes of
it: a row without settings deletes the override or is skipped, any other updates or inserts one. A
row that asks for it receives a generated password, unless an earlier run has generated one for it.

## Main definitions

* `QuizOverrides.classify` — what becomes of a row.
* `QuizOverrides.ReconciledRow` — the outcome for a row.
* `QuizOverrides.reconcile` — the reconciliation of a row.
-/

namespace QuizOverrides

/-- What becomes of a row that is blank or not, when there is an override or not. -/
def OverrideAction.decide (blank existing : Bool) : OverrideAction :=
  match blank, existing with
  | true, true => .delete
  | true, false => .skip
  | false, true => .update
  | false, false => .insert

/-- **What becomes of a row**, given its cells and the identifier of the override that there is. An
empty identifier counts as none. -/
def classify (cells : Cells) (existing : Option String) : OverrideAction :=
  .decide cells.isBlank (given? existing).isSome

/-- **The outcome for a row**: what becomes of it, the override to be written, and whether its
password was generated. -/
structure ReconciledRow where
  action : OverrideAction
  draft : OverrideDraft
  generated : Bool
deriving DecidableEq, Repr

/-- The identifier of the override that a subject of a quiz has. Without a subject there is none. -/
def existingId? (quizId : Field String) (kind : SubjectKind) (subject : Option String) :
    Action StorageError (Option String) :=
  match given? subject with
  | none => pure none
  | some s => do
    pure ((← Overrides.get? (.forSubject quizId kind s)).bind Override.id)

/-- The subject whose override a row is about; a subject with an error has none. -/
def ValidatedRow.owner (row : ValidatedRow) : Option String :=
  if row.errors.subject.isSome then none else row.fields.subjectId

/-- The row asks for a generated password. -/
def ValidatedRow.asksPassword (row : ValidatedRow) : Bool :=
  row.fields.generatePassword && row.errors.generate.isNone

/-- The password of a row: its own, or a generated one, the one of an earlier run if there is
one. -/
def rowPassword (row : ValidatedRow) (pinned : Option String) : StateM Site (Option String) :=
  if row.asksPassword then
    match pinned with
    | some p => pure (some p)
    | none => do pure (some (← Password.generate (← get).options.passwordLength))
  else pure row.fields.password

/-- The settings of a row with the given password. -/
def ParsedFields.values (f : ParsedFields) (password : Option String) : OverrideValues :=
  ⟨f.timeOpen, f.timeClose, f.timeLimit, f.attempts, password⟩

/-- The reconciliation of a row of which only is known whether it is blank. -/
def reconcileBlank (quizId : Field String) (kind : SubjectKind) (row : ValidatedRow) (blank : Bool)
    (pinned : Option String) : Action StorageError ReconciledRow := do
  let existing ← existingId? quizId kind row.owner
  let password ← rowPassword row pinned
  pure
    { action := .decide blank (given? existing).isSome
      draft := ⟨existing, .forSubject quizId kind row.fields.subjectId (row.fields.values password)⟩
      generated := row.asksPassword }

/-- **The reconciliation of a row.** -/
def reconcile (quizId : Field String) (kind : SubjectKind) (row : ValidatedRow) (cells : Cells)
    (pinned : Option String) : Action StorageError ReconciledRow :=
  reconcileBlank quizId kind row cells.isBlank pinned

end QuizOverrides
