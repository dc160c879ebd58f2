import Mathlib.Tactic.SplitIfs
import QuizOverrides.Proofs.Lookup

set_option autoImplicit false

/-!
# Whom a row names

A row names a user, or a group of the course of its quiz, by an identifier, by a number or by a
name. The first of these cells that has more than blanks counts. An identifier has to be that of a
member, and a number or a name that of one member alone.

## Main definitions

* `QuizOverrides.Member` — a user or a group, with what it may be searched by.
* `QuizOverrides.Site.members` — the users, or the groups of a course.
* `QuizOverrides.Site.Resolves` — cells name one of the members.

## Main results

* `QuizOverrides.Site.subject?_eq`, `QuizOverrides.Site.foundSubjects_number`,
  `QuizOverrides.Site.foundSubjects_name` — look-ups are searches among the members.
* `QuizOverrides.Site.subjectReading_error_eq_none` — whose subject is without an error.
-/

namespace QuizOverrides

open Text

/-- **A user or a group**, with the number and the name that it may be searched by. -/
structure Member where
  subject : Subject
  number : Option String
  name : String

/-- A user is searched by the user name. -/
def User.member (u : User) : Member := ⟨u.subject, u.idNumber, u.username⟩

/-- A group is searched by its name. -/
def CourseGroup.member (g : CourseGroup) : Member := ⟨g.subject, g.idNumber, g.name⟩

/-- **The members**: all users, or the groups of a course. -/
def Site.members (s : Site) (kind : SubjectKind) (courseId : String) : List Member :=
  match kind with
  | .user => s.users.map User.member
  | .group => (s.groups.filter fun g => g.courseId == courseId).map CourseGroup.member

/-- **Cells name a member**: the identifier is issued and that of one; or there is no identifier,
and one member alone has the number; or there is no number either, and one alone has the name. -/
def Site.Resolves (s : Site) (kind : SubjectKind) (courseId : String) (c : Cells) : Prop :=
  if trim c.subjectId ≠ "" then
    Uuid.isIssued (trim c.subjectId) = true ∧
      ∃ m ∈ s.members kind courseId, m.subject.id = trim c.subjectId
  else if trim c.subjectIdNumber ≠ "" then
    ((s.members kind courseId).filter fun m => m.number == some (trim c.subjectIdNumber)).length = 1
  else if trim c.subjectName ≠ "" then
    ((s.members kind courseId).filter fun m => m.name == trim c.subjectName).length = 1
  else False

/-! ### Look-ups among the members -/

/-- A column agrees with a given text if it holds that text. -/
lemma Field.holds_given {x : String} (column : Option String) :
    (Field.given x).holds column = (column == some x) := by
  rcases column with _ | y
  · rfl
  · exact BEq.comm

namespace Site

variable (s : Site) (kind : SubjectKind) (courseId : String)

/-- **A member is found by its identifier**, if that is issued. -/
lemma subject?_eq (id : String) :
    s.subject? kind (.given courseId) id =
      if Uuid.isIssued id then
        ((s.members kind courseId).find? fun m => m.subject.id == id).map Member.subject
      else none := by
  unfold subject? members
  split_ifs
  · cases kind with
    | user =>
      dsimp only
      rw [List.find?_map, Option.map_map]
      rfl
    | group =>
      dsimp only
      rw [List.find?_map, Option.map_map, List.find?_filter]
      refine congrArg (fun p => (s.groups.find? p).map CourseGroup.subject) (funext fun g => ?_)
      rw [Field.holds_given, Bool.eq_iff_iff]
      simp [CourseGroup.member, CourseGroup.subject, and_comm]
  · rfl

/-- The users found are the members that pass the test, as far as they are fetched. -/
lemma foundUsers_member (p : Member → Bool) :
    s.foundUsers (fun u => p u.member) =
      .ofMatches ((((s.members .user courseId).filter p).take Directory.fetched).map
        Member.subject) := by
  unfold foundUsers members
  rw [List.filter_map, ← List.map_take, List.map_map]
  rfl

/-- The groups found are the members of the course that pass it. -/
lemma foundGroups_member (p : Member → Bool) :
    s.foundGroups (fun g => g.courseId == courseId && p g.member) =
      .ofMatches ((((s.members .group courseId).filter p).take Directory.fetched).map
        Member.subject) := by
  unfold foundGroups members
  rw [List.filter_map, List.filter_filter, ← List.map_take, List.map_map]
  simp only [Bool.and_comm (_ == courseId)]
  rfl

/-- **The search by a number** is one among the members. -/
lemma foundSubjects_number {number : String} (h : number ≠ "") :
    s.foundSubjects kind (.given courseId) ⟨.given number, .absent⟩ =
      .ofMatches ((((s.members kind courseId).filter fun m => m.number == some number).take
        Directory.fetched).map Member.subject) := by
  have hgiven : (Field.given number).isGiven = true := by simpa [Field.isGiven] using h
  unfold foundSubjects
  simp only [hgiven, if_true, Field.holds_given]
  cases kind with
  | user => exact s.foundUsers_member courseId fun m => m.number == some number
  | group => exact s.foundGroups_member courseId fun m => m.number == some number

/-- **The search by a name** is one among the members. -/
lemma foundSubjects_name {name : String} (h : name ≠ "") :
    s.foundSubjects kind (.given courseId) ⟨.absent, .given name⟩ =
      .ofMatches ((((s.members kind courseId).filter fun m => m.name == name).take
        Directory.fetched).map Member.subject) := by
  have hgiven : (Field.given name).isGiven = true := by simpa [Field.isGiven] using h
  have habsent : ¬(Field.absent : Field String).isGiven = true := by decide
  unfold foundSubjects
  simp only [hgiven, if_neg habsent, if_true, Field.holds_given]
  cases kind with
  | user => exact s.foundUsers_member courseId fun m => m.name == name
  | group => exact s.foundGroups_member courseId fun m => m.name == name

end Site

/-! ### Subjects without an error -/

/-- A search that fetches two finds a subject if and only if there is one alone. -/
lemma SubjectReading.ofLookup_error_eq_none {members : List Member}
    {description : SubjectDescription} :
    (SubjectReading.ofLookup description
      (.ofMatches ((members.take Directory.fetched).map Member.subject))).error = none ↔
        members.length = 1 := by
  match members with
  | [] => simp [SubjectLookup.ofMatches, ofLookup]
  | [m] => simp [SubjectLookup.ofMatches, ofLookup, Directory.fetched]
  | m :: m' :: rest => simp [SubjectLookup.ofMatches, ofLookup, Directory.fetched]

/-- **Nothing is wrong with a subject** if and only if the cells name a member. -/
theorem Site.subjectReading_error_eq_none (s : Site) (kind : SubjectKind) (courseId : String)
    (c : Cells) :
    (s.subjectReading kind (.given courseId) c).error = none ↔ s.Resolves kind courseId c := by
  unfold subjectReading namedSubject Resolves
  split_ifs with hid hnumber hname
  · rw [subject?_eq]
    split_ifs with hissued
    · rcases hfind : (s.members kind courseId).find? fun m => m.subject.id == trim c.subjectId
        with _ | m <;> rw [hfind]
      · have hnone := List.find?_eq_none.mp hfind
        simp only [beq_iff_eq] at hnone
        simpa [SubjectReading.ofId, hissued] using hnone
      · have hmem : m ∈ s.members kind courseId := List.mem_of_find?_eq_some hfind
        have hm : m.subject.id = trim c.subjectId := by simpa using List.find?_some hfind
        exact ⟨fun _ => ⟨hissued, m, hmem, hm⟩, fun _ => rfl⟩
    · simp [SubjectReading.ofId, hissued]
  · rw [foundSubjects_number s kind courseId hnumber, SubjectReading.ofLookup_error_eq_none]
  · rw [foundSubjects_name s kind courseId hname, SubjectReading.ofLookup_error_eq_none]
  · simp

end QuizOverrides
