import QuizOverrides.Calendar.Zone
import QuizOverrides.Site.Clock
import QuizOverrides.Site.Fault
import QuizOverrides.Site.Log
import QuizOverrides.Text.Encoding

set_option autoImplicit false

/-!
# Sites and actions

A site is the state that requests work on: its tables in the order of their rows, the schedule of
storage faults, the clock, the source of random draws and what has been written to its logs. With it
comes the runtime, which knows time zones and encodings by their names. An action is a computation
on a site that returns a value or throws an error; what it did to the site before it threw stays
done.

The table of overrides has versions. An insert extends the current version, while an update or a
deletion supersedes it by a new one. The superseded versions are kept, the latest first.

## Main definitions

* `QuizOverrides.Runtime` — what the runtime knows.
* `QuizOverrides.Site` — the state.
* `QuizOverrides.Action` — computations on a site.
* `QuizOverrides.access` — an access to a table, which counts and may meet a fault.
* `QuizOverrides.draw` — a random draw.

## Design

Only a transaction takes effects back, by returning to the overrides it began with, in the way of
the storage that the site has. For this reason the state is outside the errors: a throwing action
still has a state to show.
-/

namespace QuizOverrides

open Calendar

/-- **What the runtime knows** by name: time zones, and the encodings that have no definition of
their own. -/
structure Runtime where
  zones : ZoneData := {}
  decoders : Decoders := fun _ => none
deriving Inhabited

/-- **A site.** Identifiers of overrides and batches are numbered by two counters that never go
back. -/
structure Site where
  users : List User := []
  groups : List CourseGroup := []
  quizzes : List Quiz := []
  overrides : List Override := []
  superseded : List (List Override) := []
  batches : List Batch := []
  audit : List AuditRow := []
  overrideCount : Nat := 0
  batchCount : Nat := 0
  transactions : Nat := 0
  accesses : List Table := []
  faults : List ScheduledFault := []
  rollback : Rollback := .version
  clock : ClockReading := .start
  drawSource : List Int := []
  drawsMade : Nat := 0
  options : ImportOptions := .standard
  runtime : Runtime := {}
  logs : List LogLine := []
  console : Console := {}
deriving Inhabited

/-- The zone in which templates show times, if the runtime knows it. -/
def Site.templateZone (site : Site) : Option Zone :=
  site.runtime.zones.find? site.options.timeZone

/-- **Actions**: computations on a site that may throw. -/
abbrev Action (ε α : Type) := ExceptT ε (StateM Site) α

/-- The action with its errors turned into others. -/
def Action.mapError {ε ε' α : Type} (f : ε → ε') (act : Action ε α) : Action ε' α :=
  ExceptT.mk do
    match ← act.run with
    | .ok a => pure (.ok a)
    | .error e => pure (.error (f e))

/-- Turning errors into others leaves alone what is made of the value. -/
theorem Action.mapError_map {ε ε' α β : Type} (f : ε → ε') (g : α → β) (act : Action ε α) :
    (do let a ← act.mapError f; pure (g a) : Action ε' β) =
      Action.mapError f (do let a ← act; pure (g a)) := by
  funext site
  simp only [Action.mapError, bind, ExceptT.bind, ExceptT.mk, ExceptT.bindCont, ExceptT.run,
    StateT.bind, pure, ExceptT.pure]
  rcases act site with ⟨r, s⟩
  cases r <;> rfl

/-- **Storage tells identifiers apart** letter by letter, as texts. That is a property of the
storage which sites have; a database in which identifiers are numbers takes two spellings of one
for the same. -/
abbrev sameId {α : Type} [BEq α] (a b : α) : Bool := a == b

/-- **An access to a table**: it is counted, and throws if a fault strikes. -/
def access (table : Table) (kind : Access) : Action StorageError Unit := do
  let site ← get
  let (thrown, faults) := strike table kind site.faults
  set { site with accesses := table :: site.accesses, faults := faults }
  match thrown with
  | some e => throw e
  | none => pure ()

/-- How often a table has been accessed. -/
def Site.accessCount (site : Site) (table : Table) : Nat := site.accesses.count table

/-- Writes a line to the logs. -/
def logLine (line : LogLine) : StateM Site Unit :=
  modify fun site => { site with logs := site.logs ++ [line] }

/-- Changes the console. -/
def onConsole (f : Console → Console) : StateM Site Unit :=
  modify fun site => { site with console := f site.console }

/-- The value of the `k`-th draw: the numbers of the source are used in turn, and a source without
numbers gives zeros. -/
def drawnNumber (source : List Int) (k : Nat) : Int :=
  source.getD (k % source.length) 0

/-- **A random draw** of a number below `bound` in size. A source of numbers that are not negative
gives no negative draws. -/
def draw (bound : Nat) : StateM Site Int := do
  let site ← get
  set { site with drawsMade := site.drawsMade + 1 }
  pure ((drawnNumber site.drawSource site.drawsMade).tmod bound)

end QuizOverrides
