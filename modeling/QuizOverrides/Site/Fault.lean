import QuizOverrides.Field

set_option autoImplicit false

/-!
# Storage faults

Any access to a table may fail, at any time and for reasons of its own. Which accesses fail is part
of the state of a site: a schedule of faults, each of which strikes once.

## Main definitions

* `QuizOverrides.StorageError` — what an access to storage may throw.
* `QuizOverrides.ScheduledFault` — a fault that waits for an access.
* `QuizOverrides.strike` — the effect of an access on the schedule.
* `QuizOverrides.Rollback` — what storage does with the work of a transaction that failed.
-/

namespace QuizOverrides

/-- **What an access to storage throws**: an error with a message, a bare text, or the error that an
override to be changed is not there. -/
inductive StorageError where
  | error (message : String)
  | bareText (text : String)
  | overrideGone (id : Field String)
deriving DecidableEq, Repr, Inhabited

namespace StorageError

/-- The words of what was thrown. -/
def message : StorageError → String
  | error message => message
  | bareText text => text
  | overrideGone id => s!"Override {id.text} no longer exists"

/-- An error was thrown, not a bare text. -/
def isError : StorageError → Bool
  | bareText _ => false
  | _ => true

end StorageError

/-- **A table**, or the place where transactions are begun. -/
inductive Table where
  | overrides
  | batches
  | users
  | groups
  | quizzes
  | audit
  | transactions
deriving DecidableEq, Repr

/-- **A kind of access** to a table. -/
inductive Access where
  | save
  | find
  | findOne
  | count
  | update
  | delete
  | begin
deriving DecidableEq, Repr

/-- **A scheduled fault**: it strikes at the `countdown`-th access of its kind from now on. -/
structure ScheduledFault where
  table : Table
  access : Access
  countdown : Nat
  thrown : StorageError
deriving DecidableEq, Repr

/-- **An access meets the schedule.** Only the first fault for this kind of access is counted down;
when its turn has come it strikes and is taken off. -/
def strike (table : Table) (access : Access) :
    List ScheduledFault → Option StorageError × List ScheduledFault
  | [] => (none, [])
  | f :: rest =>
    if f.table = table ∧ f.access = access then
      if f.countdown ≤ 1 then (some f.thrown, rest)
      else (none, ⟨f.table, f.access, f.countdown - 1, f.thrown⟩ :: rest)
    else
      let (thrown, rest) := strike table access rest
      (thrown, f :: rest)

/-- Without a fault for an access the schedule stays as it is. -/
theorem strike_eq_of_forall {table : Table} {access : Access} {faults : List ScheduledFault}
    (h : ∀ f ∈ faults, ¬(f.table = table ∧ f.access = access)) :
    strike table access faults = (none, faults) := by
  induction faults with
  | nil => rfl
  | cons f rest ih =>
    have hf := h f (by simp)
    have hr := ih fun g hg => h g (by simp [hg])
    simp [strike, hf, hr]

/-- **How storage takes back the work of a failed transaction.** A database returns to the rows
that the table had when the transaction began. Storage that keeps versions of a table returns to the
version that was current then, with what has been added to that version since. -/
inductive Rollback where
  | rows
  | version
deriving DecidableEq, Repr, Inhabited

end QuizOverrides
