import QuizOverrides.Site.Overrides

set_option autoImplicit false

/-!
# Committing rows

The rows of an import are applied one after the other, in a single transaction. The first row that
cannot be applied stops the commit and is named by its error.

## Main definitions

* `QuizOverrides.RowChange` — what a row changes.
* `QuizOverrides.CommitError` — why a commit failed.
* `QuizOverrides.CommitSummary` — how many overrides were inserted, updated and deleted.
* `QuizOverrides.applyChange`, `QuizOverrides.applyChanges` — applying rows.
* `QuizOverrides.commitChanges` — the commit.
-/

namespace QuizOverrides

/-- **What a row changes**: the number of the row, if it has one, what becomes of its override, and
the override to be written. -/
structure RowChange where
  number : Field Whole
  action : OverrideAction
  draft : OverrideDraft
deriving DecidableEq, Repr

/-- **Why a row cannot be applied**: storage failed, or the row is about an override and does not
say which. -/
inductive RowFailure where
  | storage (e : StorageError)
  | noOverride (action : OverrideAction)
deriving DecidableEq, Repr

/-- The words for the failure of a row. -/
def RowFailure.message : RowFailure → String
  | storage e => e.message
  | noOverride action => s!"No existing override to {action.name}"

/-- **Why a commit failed**: a row could not be applied, or the transaction could not be begun. -/
inductive CommitError where
  | row (number : Field Whole) (action : OverrideAction) (reason : RowFailure)
  | storage (e : StorageError)
deriving DecidableEq, Repr

namespace CommitError

/-- The words for the failure of a commit. -/
def message : CommitError → String
  | row number action reason =>
    s!"Row {number.shown Whole.text}: failed to {action.name} override: {reason.message}"
  | storage e => e.message

/-- The failure as an error: a bare text becomes the message of one. -/
def asError : CommitError → CommitError
  | storage (.bareText text) => storage (.error text)
  | e => e

end CommitError

/-- **How many overrides a commit changed.** -/
structure CommitSummary where
  inserted : Nat
  updated : Nat
  deleted : Nat
deriving DecidableEq, Repr, Inhabited

namespace CommitSummary

/-- The summary of a commit without rows. -/
def zero : CommitSummary := ⟨0, 0, 0⟩

/-- The summary with one more row. -/
def count (s : CommitSummary) : OverrideAction → CommitSummary
  | .insert => ⟨s.inserted + 1, s.updated, s.deleted⟩
  | .update => ⟨s.inserted, s.updated + 1, s.deleted⟩
  | .delete => ⟨s.inserted, s.updated, s.deleted + 1⟩
  | .skip => s

/-- The summary in words. -/
def text (s : CommitSummary) : String :=
  let inserted := Text.intText s.inserted
  let updated := Text.intText s.updated
  let deleted := Text.intText s.deleted
  s!"{inserted} inserted, {updated} updated, {deleted} deleted"

end CommitSummary

/-- The identifier of a draft; an empty one is none. -/
def OverrideDraft.id? (d : OverrideDraft) : Option String :=
  d.id.filter (· ≠ "")

/-- **Applying a row.** -/
def applyChange (c : RowChange) : Action RowFailure Unit :=
  match c.action with
  | .insert => do
    let _ ← (Overrides.insert c.draft.data).mapError .storage
    pure ()
  | .update =>
    match c.draft.id? with
    | none => throw (.noOverride .update)
    | some id => (Overrides.update (.given id) c.draft.data).mapError .storage
  | .delete =>
    match c.draft.id? with
    | none => throw (.noOverride .delete)
    | some id => (Overrides.delete (.given id)).mapError .storage
  | .skip => pure ()

/-- **Applying rows** in order, counting them. -/
def applyChanges : List RowChange → CommitSummary → Action CommitError CommitSummary
  | [], summary => pure summary
  | c :: rest, summary => do
    (applyChange c).mapError (.row c.number c.action)
    applyChanges rest (summary.count c.action)

/-- **The commit of rows**: all of them in one transaction. -/
def commitChanges (rows : List RowChange) : Action CommitError CommitSummary := do
  let summary ← Overrides.transaction .storage (applyChanges rows .zero)
  logLine ⟨.log, "OverrideCommitService", s!"Committed overrides: {summary.text}", []⟩
  pure summary

end QuizOverrides
