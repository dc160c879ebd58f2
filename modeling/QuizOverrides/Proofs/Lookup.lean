import QuizOverrides.Import.Service
import QuizOverrides.Proofs.Action

set_option autoImplicit false

/-!
# What look-ups find

Requests look up quizzes, users, groups and overrides before they write anything. Each of these
look-ups is a function of the tables of the site, and so are the validation of the cells of a row
and the identifier of the override that the row is about.

## Main definitions

* `QuizOverrides.Site.quiz?` — the quiz of an identifier.
* `QuizOverrides.Site.subjectReading` — the subject that the cells of a row name.
* `QuizOverrides.Site.validated` — the validated row of cells.
* `QuizOverrides.Site.existing?` — the identifier of the override of a subject.

## Main results

* `QuizOverrides.validate_looks` — the validation of a row is a look-up.
* `QuizOverrides.existingId?_looks` — so is the search for the override of a row.
-/

namespace QuizOverrides

open QuizOverrides.Action Text

namespace Site

/-! ### Values of look-ups -/

/-- The quiz of an identifier. -/
def quiz? (s : Site) (id : Field String) : Option Quiz :=
  (issuedId? id).bind fun i => s.quizzes.find? fun q => q.id == i

/-- The user or the group of an identifier. -/
def subject? (s : Site) (kind : SubjectKind) (courseId : Field String) (id : String) :
    Option Subject :=
  if Uuid.isIssued id then
    match kind with
    | .user => (s.users.find? fun u => u.id == id).map User.subject
    | .group =>
      (s.groups.find? fun g => g.id == id && courseId.holds (some g.courseId)).map
        CourseGroup.subject
  else none

/-- The outcome of a search for users. -/
def foundUsers (s : Site) (p : User → Bool) : SubjectLookup :=
  .ofMatches (((s.users.filter p).take Directory.fetched).map User.subject)

/-- The outcome of a search for groups. -/
def foundGroups (s : Site) (p : CourseGroup → Bool) : SubjectLookup :=
  .ofMatches (((s.groups.filter p).take Directory.fetched).map CourseGroup.subject)

/-- The outcome of a search by number or name. -/
def foundSubjects (s : Site) (kind : SubjectKind) (courseId : Field String)
    (c : SubjectCriteria) : SubjectLookup :=
  match kind with
  | .user =>
    if c.idNumber.isGiven then s.foundUsers fun u => c.idNumber.holds u.idNumber
    else if c.name.isGiven then s.foundUsers fun u => c.name.holds (some u.username)
    else .missing
  | .group =>
    if c.idNumber.isGiven then
      s.foundGroups fun g => courseId.holds (some g.courseId) && c.idNumber.holds g.idNumber
    else if c.name.isGiven then
      s.foundGroups fun g => courseId.holds (some g.courseId) && c.name.holds (some g.name)
    else .missing

/-- The subject that an identifier, a number and a name stand for. -/
def namedSubject (s : Site) (kind : SubjectKind) (courseId : Field String)
    (id number name : String) : SubjectReading :=
  if id ≠ "" then .ofId id (s.subject? kind courseId id)
  else if number ≠ "" then
    .ofLookup (.idNumber number) (s.foundSubjects kind courseId ⟨.given number, .absent⟩)
  else if name ≠ "" then
    .ofLookup (.name name) (s.foundSubjects kind courseId ⟨.absent, .given name⟩)
  else ⟨none, none, some .unnamed⟩

/-- **The subject of a row.** -/
def subjectReading (s : Site) (kind : SubjectKind) (courseId : Field String) (c : Cells) :
    SubjectReading :=
  s.namedSubject kind courseId (trim c.subjectId) (trim c.subjectIdNumber) (trim c.subjectName)

/-- **The validated row** of cells. -/
def validated (s : Site) (kind : SubjectKind) (courseId : Field String) (c : Cells) :
    ValidatedRow :=
  assembleRow (readCells c) (s.subjectReading kind courseId c)

/-- The first override of a quiz for a subject. -/
def override? (s : Site) (quizId : Field String) (kind : SubjectKind) (subject : String) :
    Option Override :=
  s.overrides.find? (OverrideFilter.forSubject quizId kind subject).admits

/-- **The identifier of the override** of a subject, if there is one. -/
def existing? (s : Site) (quizId : Field String) (kind : SubjectKind)
    (subject : Option String) : Option String :=
  (given? subject).bind fun x => (s.override? quizId kind x).bind Override.id

end Site

/-! ### Quizzes and subjects -/

/-- Finding a quiz sees the quiz of the site. -/
lemma find?_looks (id : Field String) : (Quizzes.find? id).Looks fun s => s.quiz? id := by
  unfold Quizzes.find? Site.quiz?
  cases issuedId? id with
  | none => exact Looks.pure none
  | some i => exact access_read_looks .quizzes .findOne fun s => rfl

/-- Finding a subject by its id sees the subject of the site. -/
lemma findSubject?_looks (kind : SubjectKind) (courseId : Field String) (id : String) :
    (findSubject? kind courseId id).Looks fun s => s.subject? kind courseId id := by
  unfold findSubject? Site.subject? Directory.findUser? Directory.findGroup?
  by_cases h : Uuid.isIssued id = true
  · simp only [if_pos h]
    cases kind with
    | user => exact access_read_looks .users .findOne fun s => rfl
    | group => exact access_read_looks .groups .findOne fun s => rfl
  · simp only [if_neg h]
    cases kind <;> exact Looks.pure none

/-- Looking up subjects sees the ones found on the site. -/
lemma lookupSubject_looks (kind : SubjectKind) (courseId : Field String) (c : SubjectCriteria) :
    (lookupSubject kind courseId c).Looks fun s => s.foundSubjects kind courseId c := by
  unfold lookupSubject Site.foundSubjects Directory.lookupUser Directory.lookupGroup
  by_cases hn : c.idNumber.isGiven = true
  · simp only [if_pos hn]
    cases kind with
    | user => exact access_read_looks .users .find fun s => rfl
    | group => exact access_read_looks .groups .find fun s => rfl
  · simp only [if_neg hn]
    by_cases h : c.name.isGiven = true
    · simp only [if_pos h]
      cases kind with
      | user => exact access_read_looks .users .find fun s => rfl
      | group => exact access_read_looks .groups .find fun s => rfl
    · simp only [if_neg h]
      cases kind <;> exact Looks.pure SubjectLookup.missing

/-! ### Rows -/

/-- Resolving the names of a row sees the named subject of the site. -/
lemma resolveNamed_looks (kind : SubjectKind) (courseId : Field String) (id number name : String) :
    (resolveNamed kind courseId id number name).Looks
      fun s => s.namedSubject kind courseId id number name := by
  unfold resolveNamed Site.namedSubject
  by_cases hid : id ≠ ""
  · simp only [if_pos hid]
    exact (findSubject?_looks kind courseId id).map _
  · simp only [if_neg hid]
    by_cases hnumber : number ≠ ""
    · simp only [if_pos hnumber]
      exact (lookupSubject_looks kind courseId _).map _
    · simp only [if_neg hnumber]
      by_cases hname : name ≠ ""
      · simp only [if_pos hname]
        exact (lookupSubject_looks kind courseId _).map _
      · simp only [if_neg hname]
        exact Looks.pure _

/-- **The validation of a row** is a look-up. -/
lemma validate_looks (kind : SubjectKind) (courseId : Field String) (c : Cells) :
    (validate kind courseId c).Looks fun s => s.validated kind courseId c :=
  (resolveNamed_looks kind courseId _ _ _).map _

/-- **The search for the override** of a row is a look-up. -/
lemma existingId?_looks (quizId : Field String) (kind : SubjectKind) (subject : Option String) :
    (existingId? quizId kind subject).Looks fun s => s.existing? quizId kind subject := by
  unfold existingId? Site.existing?
  cases given? subject with
  | none => exact Looks.pure none
  | some x =>
    have hget : (Overrides.get? (.forSubject quizId kind x)).Looks
        fun s => s.override? quizId kind x :=
      access_read_looks .overrides .findOne fun s => rfl
    exact hget.map _

end QuizOverrides
