import QuizOverrides.Proofs.Duplicates
import QuizOverrides.Proofs.Resolution

set_option autoImplicit false

/-!
# Naming subjects

Of the cells that may name a subject only the first counts that has more than blanks: the
identifier, else the number, else the name. A search by number or name fetches two members at most,
and still tells whether no member, one alone, or several match in the whole table. A row without an
error about its subject names one of the members, and shows the name of that member.

## Main definitions

* `QuizOverrides.Cells.NamesAs` — the cell that counts is the same.
* `QuizOverrides.ValidatedRow.TellsMatches` — a row tells how many members match a description.
* `QuizOverrides.Site.NamesSubject` — what a row has to say about the subject of its cells.

## Main results

* `QuizOverrides.Cells.NamesAs.resolveSubject_eq` — the other cells are not consulted.
* `QuizOverrides.Site.validated_namesSubject` — what validated rows say about their subjects.
* `QuizOverrides.validate_names_subjects` — the same for the rows of requests and of whole files.
-/

namespace QuizOverrides

open QuizOverrides.Action Text

/-! ### The cell that counts -/

/-- **The cell that counts is the same**: the identifiers, or the numbers where there are no
identifiers, or the names where there are no numbers either. -/
inductive Cells.NamesAs (c c' : Cells) : Prop where
  | byId (hgiven : trim c.subjectId ≠ "") (hsame : trim c'.subjectId = trim c.subjectId)
  | byNumber (hid : trim c.subjectId = "") (hid' : trim c'.subjectId = "")
      (hgiven : trim c.subjectIdNumber ≠ "")
      (hsame : trim c'.subjectIdNumber = trim c.subjectIdNumber)
  | byName (hid : trim c.subjectId = "") (hid' : trim c'.subjectId = "")
      (hnumber : trim c.subjectIdNumber = "") (hnumber' : trim c'.subjectIdNumber = "")
      (hsame : trim c'.subjectName = trim c.subjectName)

/-- **The other cells are not consulted**: cells of which the same one counts are looked up in the
same way. -/
theorem Cells.NamesAs.resolveSubject_eq {c c' : Cells} (h : c.NamesAs c') (kind : SubjectKind)
    (courseId : Field String) :
    resolveSubject kind courseId c' = resolveSubject kind courseId c := by
  unfold resolveSubject resolveNamed
  cases h with
  | byId hgiven hsame => simp only [hsame, if_pos hgiven]
  | byNumber hid hid' hgiven hsame =>
    simp only [hid, hid', hsame, ne_eq, not_true_eq_false, if_false, if_pos hgiven]
  | byName hid hid' hnumber hnumber' hsame =>
    simp only [hid, hid', hnumber, hnumber', hsame, ne_eq, not_true_eq_false, if_false]

/-! ### Descriptions -/

/-- **A row tells how many members match a description**: it is without an error about its subject
if one alone does, and then that is its subject; else it is told whether several or none do. -/
structure ValidatedRow.TellsMatches (row : ValidatedRow) (kind : SubjectKind)
    (description : SubjectDescription) (found : List Member) : Prop where
  alone : row.errors.subject = none ↔ ∃ m, found = [m] ∧
    row.fields.subjectId = some m.subject.id ∧ row.fields.subjectName = some m.subject.name
  several : (kind.idColumn, s!"More than one {kind.name} matches {description.text}") ∈
    row.errors.messages kind ↔ 2 ≤ found.length
  nobody : (kind.idColumn, s!"No {kind.name} matches {description.text}") ∈
    row.errors.messages kind ↔ found = []

/-- It is told differently whether several members match or none. -/
lemma SubjectError.message_manyMatch_ne (kind : SubjectKind) (d : SubjectDescription) :
    (manyMatch d).message kind ≠ (noMatch d).message kind := by
  intro h
  have hfirst := congrArg (fun text => text.toList.head?) h
  cases kind <;> simp [message, messageWith, SubjectKind.name, toString] at hfirst

/-- **Two members are enough** to tell whether none, one alone or several match. -/
lemma ValidatedRow.tellsMatches {row : ValidatedRow} {kind : SubjectKind}
    {d : SubjectDescription} {found : List Member}
    (h : (⟨row.fields.subjectId, row.fields.subjectName, row.errors.subject⟩ : SubjectReading) =
      .ofLookup d (.ofMatches ((found.take Directory.fetched).map Member.subject))) :
    row.TellsMatches kind d found := by
  have hmany : s!"More than one {kind.name} matches {d.text}" =
      (SubjectError.manyMatch d).message kind := rfl
  have hno : s!"No {kind.name} matches {d.text}" = (SubjectError.noMatch d).message kind := rfl
  have hne := SubjectError.message_manyMatch_ne kind d
  -- the two members that are fetched tell these three cases apart
  match found with
  | [] =>
    obtain ⟨-, -, herror⟩ := SubjectReading.mk.inj h
    constructor
    · simp [herror]
    · rw [FieldErrors.mem_messages_subject, herror, hmany]
      simp [hne.symm]
    · rw [FieldErrors.mem_messages_subject, herror, hno]
      simp
  | [m] =>
    obtain ⟨hid, hname, herror⟩ := SubjectReading.mk.inj h
    constructor
    · simpa [herror] using ⟨hid, hname⟩
    · rw [FieldErrors.mem_messages_subject, herror]
      simp
    · rw [FieldErrors.mem_messages_subject, herror]
      simp
  | m :: m' :: rest =>
    obtain ⟨-, -, herror⟩ := SubjectReading.mk.inj h
    constructor
    · simp [herror]
    · rw [FieldErrors.mem_messages_subject, herror, hmany]
      simp
    · rw [FieldErrors.mem_messages_subject, herror, hno]
      simp [hne]

/-! ### Rows -/

/-- The identifier that is looked up is that of the row, whether it is found or not. -/
lemma SubjectReading.id_ofId (id : String) (found : Option Subject) :
    (ofId id found).id = some id := by
  cases found <;> rfl

/-- **The member that a row shows**: its identifier and its name are those of the subject. -/
def Site.Shows (s : Site) (kind : SubjectKind) (courseId : String) (id name : Option String) :
    Prop :=
  ∃ m ∈ s.members kind courseId, id = some m.subject.id ∧ name = some m.subject.name

/-- **What a row has to say about the subject of its cells.** -/
structure Site.NamesSubject (s : Site) (kind : SubjectKind) (courseId : String) (c : Cells)
    (row : ValidatedRow) : Prop where
  /-- An identifier is that of the row, and is without an error if it is issued and a member's. -/
  byId : trim c.subjectId ≠ "" → row.fields.subjectId = some (trim c.subjectId) ∧
    (row.errors.subject = none ↔ Uuid.isIssued (trim c.subjectId) = true ∧
      ∃ m ∈ s.members kind courseId, m.subject.id = trim c.subjectId)
  /-- Without an identifier the number counts. -/
  byNumber : trim c.subjectId = "" → trim c.subjectIdNumber ≠ "" →
    row.TellsMatches kind (.idNumber (trim c.subjectIdNumber))
      ((s.members kind courseId).filter fun m => m.number == some (trim c.subjectIdNumber))
  /-- Without a number, too, the name counts. -/
  byName : trim c.subjectId = "" → trim c.subjectIdNumber = "" → trim c.subjectName ≠ "" →
    row.TellsMatches kind (.name (trim c.subjectName))
      ((s.members kind courseId).filter fun m => m.name == trim c.subjectName)
  /-- Something has to name the subject. -/
  unnamed : trim c.subjectId = "" → trim c.subjectIdNumber = "" → trim c.subjectName = "" →
    row.errors.subject = some .unnamed
  /-- A row without an error about its subject shows a member. -/
  shown : row.errors.subject = none →
    s.Shows kind courseId row.fields.subjectId row.fields.subjectName

namespace Site

variable {s : Site} {kind : SubjectKind} {courseId : String} {c : Cells}

/-- An identifier is looked up among the members, if it is issued. -/
lemma subjectReading_of_id (hid : trim c.subjectId ≠ "") :
    s.subjectReading kind (.given courseId) c = .ofId (trim c.subjectId)
      (if Uuid.isIssued (trim c.subjectId) then
        ((s.members kind courseId).find? fun m => m.subject.id == trim c.subjectId).map
          Member.subject
      else none) := by
  unfold subjectReading namedSubject
  rw [if_pos hid, subject?_eq]

/-- A number is searched among the members, two of which are fetched. -/
lemma subjectReading_of_number (hid : trim c.subjectId = "")
    (hnumber : trim c.subjectIdNumber ≠ "") :
    s.subjectReading kind (.given courseId) c = .ofLookup (.idNumber (trim c.subjectIdNumber))
      (.ofMatches ((((s.members kind courseId).filter
        fun m => m.number == some (trim c.subjectIdNumber)).take
          Directory.fetched).map Member.subject)) := by
  unfold subjectReading namedSubject
  rw [if_neg (not_not.mpr hid), if_pos hnumber, foundSubjects_number s kind courseId hnumber]

/-- So is a name. -/
lemma subjectReading_of_name (hid : trim c.subjectId = "") (hnumber : trim c.subjectIdNumber = "")
    (hname : trim c.subjectName ≠ "") :
    s.subjectReading kind (.given courseId) c = .ofLookup (.name (trim c.subjectName))
      (.ofMatches ((((s.members kind courseId).filter fun m =>
        m.name == trim c.subjectName).take Directory.fetched).map Member.subject)) := by
  unfold subjectReading namedSubject
  rw [if_neg (not_not.mpr hid), if_neg (not_not.mpr hnumber), if_pos hname,
    foundSubjects_name s kind courseId hname]

/-- Without any of them nobody is looked up. -/
lemma subjectReading_unnamed (hid : trim c.subjectId = "") (hnumber : trim c.subjectIdNumber = "")
    (hname : trim c.subjectName = "") :
    s.subjectReading kind (.given courseId) c = ⟨none, none, some .unnamed⟩ := by
  unfold subjectReading namedSubject
  rw [if_neg (not_not.mpr hid), if_neg (not_not.mpr hnumber), if_neg (not_not.mpr hname)]

/-- The subject of a validated row is the one that has been looked up. -/
lemma validated_subject (s : Site) (kind : SubjectKind) (courseId : String) (c : Cells) :
    (⟨(s.validated kind (.given courseId) c).fields.subjectId,
      (s.validated kind (.given courseId) c).fields.subjectName,
      (s.validated kind (.given courseId) c).errors.subject⟩ : SubjectReading) =
        s.subjectReading kind (.given courseId) c := by
  simp only [validated, assembleRow]

/-- A row shows the member that has been found by its identifier. -/
lemma shows_of_id {id : String} {row : ValidatedRow}
    (h : (⟨row.fields.subjectId, row.fields.subjectName, row.errors.subject⟩ : SubjectReading) =
      .ofId id (if Uuid.isIssued id then
        ((s.members kind courseId).find? fun m => m.subject.id == id).map Member.subject
      else none))
    (herror : row.errors.subject = none) :
    s.Shows kind courseId row.fields.subjectId row.fields.subjectName := by
  split_ifs at h with hissued
  · rcases hfind : (s.members kind courseId).find? fun m => m.subject.id == id with _ | m <;>
      rw [hfind] at h <;> obtain ⟨hid, hname, hunknown⟩ := SubjectReading.mk.inj h
    · cases herror.symm.trans hunknown
    · have hm : m.subject.id = id := by simpa using List.find?_some hfind
      exact ⟨m, List.mem_of_find?_eq_some hfind, hid.trans (congrArg some hm.symm), hname⟩
  · obtain ⟨-, -, hunknown⟩ := SubjectReading.mk.inj h
    cases herror.symm.trans hunknown

/-- A row shows the member that alone matches a description. -/
lemma shows_of_tellsMatches {row : ValidatedRow} {d : SubjectDescription} {p : Member → Bool}
    (h : row.TellsMatches kind d ((s.members kind courseId).filter p))
    (herror : row.errors.subject = none) :
    s.Shows kind courseId row.fields.subjectId row.fields.subjectName := by
  obtain ⟨m, hfound, hshown⟩ := h.alone.mp herror
  have hm : m ∈ (s.members kind courseId).filter p := by
    rw [hfound]
    exact List.mem_singleton_self m
  exact ⟨m, (List.mem_filter.mp hm).1, hshown⟩

/-- **What validated rows say about their subjects.** -/
theorem validated_namesSubject (s : Site) (kind : SubjectKind) (courseId : String) (c : Cells) :
    s.NamesSubject kind courseId c (s.validated kind (.given courseId) c) := by
  have hsubject := validated_subject s kind courseId c
  generalize s.validated kind (.given courseId) c = row at hsubject
  -- the first name that is given counts: the identifier, then the number, then the name
  have hnumbers (hid : trim c.subjectId = "") (hnumber : trim c.subjectIdNumber ≠ "") :
      row.TellsMatches kind (.idNumber (trim c.subjectIdNumber))
        ((s.members kind courseId).filter fun m => m.number == some (trim c.subjectIdNumber)) :=
    ValidatedRow.tellsMatches (hsubject.trans (subjectReading_of_number hid hnumber))
  have hnames (hid : trim c.subjectId = "") (hnumber : trim c.subjectIdNumber = "")
      (hname : trim c.subjectName ≠ "") : row.TellsMatches kind (.name (trim c.subjectName))
        ((s.members kind courseId).filter fun m => m.name == trim c.subjectName) :=
    ValidatedRow.tellsMatches (hsubject.trans (subjectReading_of_name hid hnumber hname))
  have herrors : row.errors.subject = (s.subjectReading kind (.given courseId) c).error :=
    congrArg SubjectReading.error hsubject
  constructor
  case byId =>
    intro hid
    refine ⟨?_, ?_⟩
    · rw [← SubjectReading.id_ofId, ← subjectReading_of_id hid, ← hsubject]
    · have hresolves := s.subjectReading_error_eq_none kind courseId c
      unfold Resolves at hresolves
      rwa [if_pos hid, ← herrors] at hresolves
  case byNumber => exact hnumbers
  case byName => exact hnames
  case unnamed =>
    intro hid hnumber hname
    rw [herrors, subjectReading_unnamed hid hnumber hname]
  case shown =>
    intro herror
    by_cases hid : trim c.subjectId = ""
    · by_cases hnumber : trim c.subjectIdNumber = ""
      · by_cases hname : trim c.subjectName = ""
        · rw [herrors, subjectReading_unnamed hid hnumber hname] at herror
          cases herror
        · exact shows_of_tellsMatches (hnames hid hnumber hname) herror
      · exact shows_of_tellsMatches (hnumbers hid hnumber) herror
    · exact shows_of_id (hsubject.trans (subjectReading_of_id hid)) herror

/-! ### Rows of files -/

/-- **A row of a file without an error about its subject** shows a member of the course of the
quiz. -/
lemma Passes.shows {table : Csv.Table} {quiz : Quiz} {pinned : RowPasswords} {run : ImportRun}
    (h : s.Passes table (.kind kind) quiz pinned run) {row : ImportRow} (hrow : row ∈ run.rows)
    (herror : row.errors.subject = none) :
    s.Shows kind quiz.courseId row.subjectId row.subjectName := by
  obtain ⟨rows, hlists, hrows⟩ := h.listed
  rw [hrows] at hrow
  rcases mem_markDuplicates hlists.sorted hrow with hlisted | ⟨_, _, _, _, _, _, _, _, rfl⟩
  · have hreading := hlists.subject_eq hlisted
    have hshown := (s.validated_namesSubject kind quiz.courseId row.cells).shown
    have hsubject := SubjectReading.mk.inj
      ((s.validated_subject kind quiz.courseId row.cells).trans hreading)
    rw [hsubject.1, hsubject.2.1, hsubject.2.2] at hshown
    exact hshown herror
  · cases herror

end Site

/-- **Subjects are resolved soundly, completely and within the course.** Whatever users and groups
there are and whatever the cells hold, the first cell that names a subject decides, and the others
are not consulted. An identifier is without an error if and only if it is an issued one of a user,
or of a group of the course. A number or a name is without an error if and only if one user alone
has it, or one group of the course; rows are told that several match if and only if at least two do
in the whole table, and that none does if and only if none does, though only two are fetched.
Without any of these cells there is an error. A row without an error about its subject, be it of a
request or of a file, shows the identifier and the name of a user, or of a group of the course.
Without faults, cells are validated.

**Proof sketch.** Each look-up is a search in the list of the members. Of the members that match,
the two that are fetched tell whether there are none, one or more. -/
theorem validate_names_subjects (s : Site) (kind : SubjectKind) (courseId : String) (c : Cells) :
    (∀ row s', (validate kind (.given courseId) c).Returns s row s' →
      s.NamesSubject kind courseId c row) ∧
    (∀ c', c.NamesAs c' →
      resolveSubject kind (.given courseId) c' = resolveSubject kind (.given courseId) c) ∧
    (∀ quiz pinned table run' s', quiz.courseId = courseId →
      runOn ({ settings := .ofQuiz (.kind kind) quiz pinned, table := table } :
        ImportRun).processIn s = ((.ok (.ok true), run'), s') →
      ∀ row ∈ run'.rows, row.errors.subject = none →
        s.Shows kind courseId row.subjectId row.subjectName) ∧
    (s.faults = [] → ∃ row s', (validate kind (.given courseId) c).Returns s row s') := by
  refine ⟨fun row s' hreturns => ?_, fun c' h => h.resolveSubject_eq kind _, ?_, fun hs => ?_⟩
  · obtain rfl := (validate_looks kind (.given courseId) c).returns hreturns
    exact s.validated_namesSubject kind courseId c
  · rintro quiz pinned table run' s' rfl hprocess row hrow herror
    exact (ImportRun.passes_of_processIn hprocess).shows hrow herror
  · obtain ⟨s', hreturns, -⟩ := (validate_looks kind (.given courseId) c).quiet hs
    exact ⟨_, s', hreturns⟩

end QuizOverrides
