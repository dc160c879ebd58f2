import Mathlib.Tactic.SplitIfs
import QuizOverrides.Proofs.Lookup

set_option autoImplicit false

/-!
# Lines of templates

A template is a list of lines, each a subject with the override that it has. Composing the rows of a
template is a look-up of these lines, whose cells are the rows.

## Main definitions

* `QuizOverrides.Template.Line` — a line of a template.
* `QuizOverrides.Site.templateLines` — the lines of the template of a quiz.

## Main results

* `QuizOverrides.Template.rows_looks` — the rows of a template are the cells of its lines.
* `QuizOverrides.ImportService.buildTemplate_returns` — a template has its rows under the header.
-/

namespace QuizOverrides

open QuizOverrides.Action Calendar Text

/-! ### Lines -/

namespace Template

/-- The values of a subject without an override. -/
def noValues : OverrideValues := ⟨none, none, none, none, none⟩

/-- **A line of a template**: a subject, as it is named, and the override that it has. -/
structure Line where
  id : String
  number : String
  name : String
  override? : Option Override

namespace Line

/-- The values of the override of a line, none without an override. -/
def values (l : Line) : OverrideValues :=
  (l.override?.map fun o => o.data.values).getD noValues

/-- **The cells of a line.** -/
def record (zone : Option Zone) (l : Line) : List String :=
  [l.id, l.number, l.name] ++ valueCells zone l.values

/-- A line without an override has no values. -/
lemma values_of_none {l : Line} (h : l.override? = none) : l.values = noValues := by
  unfold values
  rw [h]
  rfl

/-- A line with an override has the values of it. -/
lemma values_of_some {l : Line} {o : Override} (h : l.override? = some o) :
    l.values = o.data.values := by
  unfold values
  rw [h]
  rfl

/-- The line of a user, given the overrides of a quiz. -/
def ofUser (overrides : List Override) (u : User) : Line :=
  ⟨u.id, u.idNumber.getD "", u.username, overrideOf? .user u.id overrides⟩

/-- The line of a group, given the overrides of a quiz. -/
def ofGroup (overrides : List Override) (g : CourseGroup) : Line :=
  ⟨g.id, g.idNumber.getD "", g.name, overrideOf? .group g.id overrides⟩

end Line

end Template

namespace Site

/-- The overrides of a quiz. -/
def overridesOf (s : Site) (quiz : Quiz) : List Override :=
  s.overrides.filter fun o => o.data.quizId == .given quiz.id

/-- The users of the given identifiers, by their user names. -/
def usersOf (s : Site) (ids : List String) : List User :=
  (s.users.filter fun u => ids.contains u.id).mergeSort fun a b => unitLE a.username b.username

/-- The groups of a course, by their names. -/
def groupsOf (s : Site) (courseId : String) : List CourseGroup :=
  (s.groups.filter fun g => g.courseId == courseId).mergeSort fun a b => unitLE a.name b.name

/-- The identifiers of the users, or of the groups of a course. -/
def subjectIds (s : Site) (courseId : String) : SubjectKind → List String
  | .user => s.users.map User.id
  | .group => (s.groups.filter fun g => g.courseId == courseId).map CourseGroup.id

/-- **The lines of the template of a quiz**: the users that have an override, or all groups of the
course. -/
def templateLines (s : Site) (quiz : Quiz) (kind : SubjectKind) : List Template.Line :=
  let overrides := s.overridesOf quiz
  match kind with
  | .user =>
    ((s.usersOf (Template.subjects .user overrides)).map (.ofUser overrides)).filter
      fun l => l.override?.isSome
  | .group => (s.groupsOf quiz.courseId).map (.ofGroup overrides)

end Site

/-! ### Rows -/

namespace Template

/-- The cells of the lines of users. -/
lemma map_record_ofUser (zone : Option Zone) (overrides : List Override) (users : List User) :
    ((users.map (Line.ofUser overrides)).filter fun l => l.override?.isSome).map
        (Line.record zone) =
      users.filterMap fun u => (overrideOf? .user u.id overrides).map fun o =>
        [u.id, u.idNumber.getD "", u.username] ++ valueCells zone o.data.values := by
  induction users with
  | nil => rfl
  | cons u rest ih =>
    rw [List.map_cons, List.filterMap_cons, List.filter_cons]
    rcases hfound : overrideOf? .user u.id overrides with _ | o
    · simp [Line.ofUser, hfound, ih]
    · simp [Line.ofUser, hfound, ih, Line.record, Line.values]

/-- The cells of the lines of groups. -/
lemma map_record_ofGroup (zone : Option Zone) (overrides : List Override)
    (groups : List CourseGroup) :
    (groups.map (Line.ofGroup overrides)).map (Line.record zone) =
      groups.map fun g => [g.id, g.idNumber.getD "", g.name] ++
        match overrideOf? .group g.id overrides with
        | some o => valueCells zone o.data.values
        | none => blankCells := by
  rw [List.map_map]
  refine List.map_congr_left fun g _ => ?_
  rcases hfound : overrideOf? .group g.id overrides with _ | o <;>
    simp only [Function.comp_apply, Line.record, Line.values, Line.ofGroup, hfound]
  · rfl
  · rfl

/-- Listing users sees the users of the site. -/
lemma usersOf_looks (ids : List String) : (Directory.usersOf ids).Looks fun s => s.usersOf ids :=
  access_read_looks .users .find fun _ => rfl

/-- Listing groups sees the groups of the site. -/
lemma groupsOf_looks (courseId : String) :
    (Directory.groupsOf courseId).Looks fun s => s.groupsOf courseId :=
  access_read_looks .groups .find fun _ => rfl

/-- The rows of users are the cells of their lines. -/
lemma userRows_looks (zone : Option Zone) (overrides : List Override) :
    (userRows zone overrides).Looks fun s =>
      (((s.usersOf (subjects .user overrides)).map (Line.ofUser overrides)).filter
        fun l => l.override?.isSome).map (Line.record zone) := by
  simp only [map_record_ofUser]
  unfold userRows
  dsimp only
  split_ifs with hnone
  · -- nobody is looked up, and nobody would be found
    have husers (s : Site) : s.usersOf (subjects .user overrides) = [] := by
      unfold Site.usersOf
      rw [List.isEmpty_iff.mp hnone, List.filter_eq_nil_iff.mpr (fun _ _ => by simp),
        List.mergeSort_nil]
    simp only [husers]
    exact .pure _
  · exact (usersOf_looks _).map _

/-- The rows of groups are the cells of their lines. -/
lemma groupRows_looks (zone : Option Zone) (courseId : String) (overrides : List Override) :
    (groupRows zone courseId overrides).Looks fun s =>
      ((s.groupsOf courseId).map (Line.ofGroup overrides)).map (Line.record zone) := by
  simp only [map_record_ofGroup]
  exact (groupsOf_looks courseId).map _

/-- **The rows of a template** are the cells of its lines. -/
theorem rows_looks (quiz : Quiz) (kind : SubjectKind) :
    (rows quiz kind).Looks fun s =>
      (s.templateLines quiz kind).map (Line.record s.templateZone) := by
  have hlist : (Overrides.list (.given quiz.id)).Looks fun s => s.overridesOf quiz :=
    access_read_looks .overrides .find fun _ => rfl
  have hzone {s s' : Site} (h : s'.still = s.still) : s'.templateZone = s.templateZone :=
    Site.congr_of_mask Site.templateZone h fun _ => rfl
  unfold rows
  cases kind with
  | user =>
    exact hlist.bind fun overrides => Looks.bind_get hzone fun zone => userRows_looks zone overrides
  | group =>
    exact hlist.bind fun overrides =>
      Looks.bind_get hzone fun zone => groupRows_looks zone quiz.courseId overrides

end Template

namespace ImportService

/-- Under a kind of subject a template is built as if nothing but storage could fail. -/
lemma buildTemplate_kind (quiz : Quiz) (kind : SubjectKind) :
    buildTemplate quiz (.kind kind) = (Template.build quiz kind).mapError .storage := by
  have hheader : usable (Mode.kind kind).writtenHeader = pure (header kind) := rfl
  unfold buildTemplate
  simp only [hheader, pure_bind]
  exact Action.mapError_map Refusal.storage (Template.ofRows quiz kind.name (header kind))
    (Template.rows quiz kind)

/-- A template has its rows under the header. -/
lemma buildTemplate_returns {quiz : Quiz} {kind : SubjectKind} {s s' : Site}
    {rows : List (List String)} (h : (Template.rows quiz kind).Returns s rows s') :
    (buildTemplate quiz (.kind kind)).Returns s (.ofRows quiz kind.name (header kind) rows) s' := by
  rw [buildTemplate_kind, returns_mapError]
  exact returns_bind.mpr ⟨rows, s', h, returns_pure.mpr ⟨rfl, rfl⟩⟩

end ImportService

end QuizOverrides
