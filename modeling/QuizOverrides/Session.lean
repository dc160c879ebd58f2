import QuizOverrides.Http.Api

set_option autoImplicit false

/-!
# Sessions

A session is a sequence of events at a site: requests, the passing of time, changes of the tables
that others make, and faults that are going to strike.

## Main definitions

* `QuizOverrides.SiteChange` — what happens to a site besides requests.
* `QuizOverrides.Event` — an event of a session.
* `QuizOverrides.Event.run` — the effect of an event and its outcome.
* `QuizOverrides.runSession` — a session.
-/

namespace QuizOverrides

open Calendar

/-- **What happens to a site** besides requests. -/
inductive SiteChange where
  | advance (milliseconds : ClockReading)
  | addUser (user : User)
  | removeUser (id : Field String)
  | addGroup (group : CourseGroup)
  | removeGroup (id : Field String)
  | addOverride (id : Field String) (data : OverrideData)
  | removeOverride (id : Field String)
  | addQuiz (quiz : Quiz)
  | removeQuiz (id : Field String)
  | schedule (fault : ScheduledFault)

/-- An override put into the table by others; if they leave its identifier out it receives the next
generated one. -/
def Site.addOverride (site : Site) (id : Field String) (data : OverrideData) : Site :=
  match id with
  | .given id => site.putOverride ⟨some id, data⟩
  | .null => site.putOverride ⟨none, data⟩
  | .other id => site.putOverride ⟨some id.plainText, data⟩
  | .absent =>
    let n := site.overrideCount + 1
    { site.putOverride ⟨some (generatedId n), data⟩ with overrideCount := n }

/-- **The site after a change.** A row that is removed takes no others with it. Overrides of a user
or a group that has been removed stay, as they do in the database, where no foreign key names their
subject. Overrides and batches of a quiz that has been removed stay as well; there the schema of the
database goes further and cascades. -/
def SiteChange.apply (site : Site) : SiteChange → Site
  | advance ms => { site with clock := site.clock.advance ms }
  | addUser user => { site with users := putRow User.id user site.users }
  | removeUser id => { site with users := site.users.filter fun u => !id.holds (some u.id) }
  | addGroup group => { site with groups := putRow CourseGroup.id group site.groups }
  | removeGroup id => { site with groups := site.groups.filter fun g => !id.holds (some g.id) }
  | addOverride id data => site.addOverride id data
  | removeOverride id => site.supersede (removeId id site.overrides)
  | addQuiz quiz => { site with quizzes := putRow Quiz.id quiz site.quizzes }
  | removeQuiz id => { site with quizzes := site.quizzes.filter fun q => !id.holds (some q.id) }
  | schedule fault => { site with faults := site.faults ++ [fault] }

/-- **An event of a session.** -/
inductive Event where
  | change (c : SiteChange)
  | request (r : Request)
  | httpRequest (r : HttpRequest)

/-- **The outcome of an event.** -/
inductive Outcome where
  | changed
  | answered (a : Answer)
  | refused (r : Refusal)
  | responded (status : Int) (a : Answer)
  | failed (answer : Except ValueFault ErrorBody)
deriving Repr

/-- **The effect of an event** and its outcome. -/
def Event.run : Event → StateM Site Outcome
  | change c => do
    modify fun site => c.apply site
    pure .changed
  | request r => do
    match ← r.answer.run with
    | .ok a => pure (.answered a)
    | .error refusal => pure (.refused refusal)
  | httpRequest r => do
    match ← r.answer with
    | .ok (status, a) => pure (.responded status a)
    | .error answer => pure (.failed answer)

/-- **A session**: its events one after the other. -/
def runSession : List Event → StateM Site (List Outcome)
  | [] => pure []
  | e :: rest => do
    let outcome ← e.run
    let outcomes ← runSession rest
    pure (outcome :: outcomes)

end QuizOverrides
