import QuizOverrides.Site.Basic
import QuizOverrides.Uuid
import QuizOverrides.Text.Units

set_option autoImplicit false

/-!
# Quizzes, users and groups

Reading the tables that imports do not write: a quiz by its identifier, and users and groups by
identifier, by number or by name. Only issued identifiers are looked up.

## Main definitions

* `QuizOverrides.Quizzes.find?` — the quiz of an identifier.
* `QuizOverrides.Subject` — a user or a group, as rows show it.
* `QuizOverrides.SubjectLookup` — the outcome of a search by number or name.
* `QuizOverrides.Directory.findUser?`, `findGroup?` — search by identifier.
* `QuizOverrides.Directory.lookupUser`, `lookupGroup` — search by number or name.
-/

namespace QuizOverrides

/-- The issued identifier that a field gives, if it gives one. -/
def issuedId? (id : Field String) : Option String := id.toOption.filter Uuid.isIssued

/-! ## Quizzes -/

/-- **The quiz** of an identifier. -/
def Quizzes.find? (id : Field String) : Action StorageError (Option Quiz) := do
  match issuedId? id with
  | none => pure none
  | some id => do
    access .quizzes .findOne
    pure ((← get).quizzes.find? fun q => sameId q.id id)

/-! ## Subjects -/

/-- **A user or a group** as rows show it. -/
structure Subject where
  id : String
  name : String
deriving DecidableEq, Repr

/-- A user as a subject. -/
def User.subject (u : User) : Subject := ⟨u.id, u.displayName⟩

/-- A group as a subject. -/
def CourseGroup.subject (g : CourseGroup) : Subject := ⟨g.id, g.name⟩

/-- **The outcome of a search** by number or name. -/
inductive SubjectLookup where
  | found (subject : Subject)
  | missing
  | ambiguous (count : Nat)
deriving DecidableEq, Repr

/-- The outcome for the subjects that a search has fetched. -/
def SubjectLookup.ofMatches : List Subject → SubjectLookup
  | [] => missing
  | [s] => found s
  | s :: rest => ambiguous (s :: rest).length

/-- **What a search goes by**: an institution's number and a name. The number is taken if it is
given, else the name. -/
structure SubjectCriteria where
  idNumber : Field String
  name : Field String
deriving DecidableEq, Repr

/-- A text that is given and not empty. -/
def given? (s : Option String) : Option String :=
  s.filter (· ≠ "")

namespace Directory

/-! ## By identifier -/

/-- **The user** of an identifier. -/
def findUser? (id : String) : Action StorageError (Option Subject) := do
  if Uuid.isIssued id then
    access .users .findOne
    pure (((← get).users.find? fun u => sameId u.id id).map User.subject)
  else pure none

/-- **The group** of an identifier in a course. -/
def findGroup? (id : String) (courseId : Field String) : Action StorageError (Option Subject) := do
  if Uuid.isIssued id then
    access .groups .findOne
    pure (((← get).groups.find? fun g => sameId g.id id && courseId.holds (some g.courseId)).map
      CourseGroup.subject)
  else pure none

/-! ## By number or name -/

/-- A search fetches no more subjects than it needs to tell one from many. -/
def fetched : Nat := 2

/-- The outcome of a search among users. -/
def searchUsers (p : User → Bool) : Action StorageError SubjectLookup := do
  access .users .find
  pure (.ofMatches ((((← get).users.filter p).take fetched).map User.subject))

/-- The outcome of a search among groups. -/
def searchGroups (p : CourseGroup → Bool) : Action StorageError SubjectLookup := do
  access .groups .find
  pure (.ofMatches ((((← get).groups.filter p).take fetched).map CourseGroup.subject))

/-- **The user** of a number or of a user name. -/
def lookupUser (c : SubjectCriteria) : Action StorageError SubjectLookup :=
  if c.idNumber.isGiven then searchUsers fun u => c.idNumber.holds u.idNumber
  else if c.name.isGiven then searchUsers fun u => c.name.holds (some u.username)
  else pure .missing

/-- **The group** of a course of a number or of a name. -/
def lookupGroup (courseId : Field String) (c : SubjectCriteria) :
    Action StorageError SubjectLookup :=
  if c.idNumber.isGiven then
    searchGroups fun g => courseId.holds (some g.courseId) && c.idNumber.holds g.idNumber
  else if c.name.isGiven then
    searchGroups fun g => courseId.holds (some g.courseId) && c.name.holds (some g.name)
  else pure .missing

/-! ## Listing -/

/-- The users of the given identifiers, by their user names. -/
def usersOf (ids : List String) : Action StorageError (List User) := do
  access .users .find
  pure (((← get).users.filter fun u => ids.contains u.id).mergeSort fun a b =>
    Text.unitLE a.username b.username)

/-- The groups of a course, by their names. -/
def groupsOf (courseId : String) : Action StorageError (List CourseGroup) := do
  access .groups .find
  pure (((← get).groups.filter fun g => g.courseId == courseId).mergeSort fun a b =>
    Text.unitLE a.name b.name)

end Directory

end QuizOverrides
