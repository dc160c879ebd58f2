import Mathlib.Data.List.TakeWhile
import QuizOverrides.Proofs.DelimitedText
import QuizOverrides.Proofs.TableInvariant
import QuizOverrides.Proofs.TemplateCells

set_option autoImplicit false

/-!
# Importing a template

The template of a quiz is read back as it was written: every override of the quiz that has a subject
comes back as an update with the values that are stored, and nothing else is listed. The lines of a
template agree with the tables, so that a run over their cells finds the subjects and the overrides
of the lines again.

## Main definitions

* `QuizOverrides.Template.Line.Fits` — a line agrees with the tables.
* `QuizOverrides.Site.exported` — the overrides that a template shows.
* `QuizOverrides.Site.Exportable` — the sites whose templates can be read back.
* `QuizOverrides.ImportRow.Restores` — a row writes what is stored.

## Main results

* `QuizOverrides.Site.Exportable.fits` — the lines of a template agree with the tables.
* `QuizOverrides.Site.Exportable.filterMap_templateLines` — the lines show the exported overrides.
* `QuizOverrides.Site.Lists.of_lines` — what a run lists for the cells of lines.
* `QuizOverrides.ImportService.buildTemplate_imports_back` — a template is imported without
  changing anything.
-/

namespace QuizOverrides

open QuizOverrides.Action Calendar Text

/-! ### Lines and overrides -/

/-- Among the overrides of a quiz the last one of a subject is the one that is found. -/
lemma Site.overrideOf?_overridesOf {s : Site} (hwf : WellFormed s.overrides) (quiz : Quiz)
    (kind : SubjectKind) {x : String} (hx : x ≠ "") :
    Template.overrideOf? kind x (s.overridesOf quiz) =
      s.overrides.find? (OverrideKey.owns ⟨.given quiz.id, kind, x⟩) := by
  have hfilter : (s.overridesOf quiz).filter (fun o => o.data.subject kind == some x) =
      s.overrides.filter (OverrideKey.owns ⟨.given quiz.id, kind, x⟩) := by
    unfold overridesOf
    rw [List.filter_filter]
    exact List.filter_congr fun o _ => Bool.and_comm _ _
  have hreverse : (s.overrides.filter (OverrideKey.owns ⟨.given quiz.id, kind, x⟩)).reverse =
      s.overrides.filter (OverrideKey.owns ⟨.given quiz.id, kind, x⟩) := by
    have hlength := hwf.unique ⟨.given quiz.id, kind, x⟩
    match hlist : s.overrides.filter (OverrideKey.owns ⟨.given quiz.id, kind, x⟩), hlength with
    | [], _ => rfl
    | [_], _ => rfl
    | _ :: _ :: _, hlength => simp at hlength
  unfold Template.overrideOf?
  rw [if_neg hx, ← List.head?_filter, List.filter_reverse, hfilter, hreverse,
    List.head?_filter]

/-- **The overrides that a template shows**: those of the quiz whose subject there is. -/
def Site.exported (s : Site) (quiz : Quiz) (kind : SubjectKind) : List Override :=
  s.overrides.filter fun o => o.data.quizId == .given quiz.id &&
    (o.data.subject kind).any fun x => (s.subjectIds quiz.courseId kind).contains x

/-- The overrides that a template exports are those of its subjects. -/
lemma Site.mem_exported {s : Site} {quiz : Quiz} {kind : SubjectKind} {o : Override} :
    o ∈ s.exported quiz kind ↔ o ∈ s.overrides ∧
      ∃ x ∈ s.subjectIds quiz.courseId kind,
        OverrideKey.owns ⟨.given quiz.id, kind, x⟩ o = true := by
  unfold exported
  rw [List.mem_filter, Bool.and_eq_true, beq_iff_eq, Option.any_eq_true]
  simp only [List.contains_iff_mem, OverrideKey.owns_iff]
  constructor
  · rintro ⟨ho, hquiz, x, hsubject, hx⟩
    exact ⟨ho, x, hx, hquiz, hsubject⟩
  · rintro ⟨ho, x, hx, hquiz, hsubject⟩
    exact ⟨ho, hquiz, x, hsubject, hx⟩

/-- **A site whose templates can be read back**: the table of overrides is sound, users and groups
have issued identifiers of their own, the zone of templates shows the times of the exported
overrides, and no cell has a carriage return. -/
structure Site.Exportable (s : Site) (quiz : Quiz) (kind : SubjectKind) : Prop where
  table : SoundTable s.overrides
  users : (s.users.map User.id).Nodup ∧ ∀ u ∈ s.users, Uuid.isIssued u.id = true
  groups : (s.groups.map CourseGroup.id).Nodup ∧ ∀ g ∈ s.groups, Uuid.isIssued g.id = true
  times : ∀ o ∈ s.exported quiz kind, ∀ i,
    o.data.values.timeOpen = some i ∨ o.data.values.timeClose = some i →
      Shown s.templateZone i
  unbroken : ∀ rows s', (Template.rows quiz kind).Returns s rows s' →
    ∀ row ∈ rows, ∀ cell ∈ row, '\r' ∉ cell.toList

/-- **A line agrees with the tables**: its subject is known, and its override is that of the
subject. -/
structure Template.Line.Fits (s : Site) (quiz : Quiz) (kind : SubjectKind) (l : Line) : Prop where
  issued : Uuid.isIssued l.id = true
  known : l.id ∈ s.subjectIds quiz.courseId kind
  found : l.override? = s.overrides.find? (OverrideKey.owns ⟨.given quiz.id, kind, l.id⟩)

/-- The override of a line is that of its subject. -/
lemma Template.Line.Fits.owns {s : Site} {quiz : Quiz} {kind : SubjectKind} {l : Line}
    (h : l.Fits s quiz kind) {o : Override} (ho : l.override? = some o) :
    o ∈ s.overrides ∧ OverrideKey.owns ⟨.given quiz.id, kind, l.id⟩ o = true := by
  have hfound := h.found.symm.trans ho
  exact ⟨List.mem_of_find?_eq_some hfound, List.find?_some hfound⟩

namespace Site

variable {s : Site} {quiz : Quiz} {kind : SubjectKind}

/-- The users listed are those with one of the ids. -/
lemma mem_usersOf {ids : List String} {u : User} :
    u ∈ s.usersOf ids ↔ u ∈ s.users ∧ u.id ∈ ids := by
  simp [usersOf]

/-- The groups listed are those of the course. -/
lemma mem_groupsOf {courseId : String} {g : CourseGroup} :
    g ∈ s.groupsOf courseId ↔ g ∈ s.groups ∧ g.courseId = courseId := by
  simp [groupsOf]

/-- Known subjects have issued identifiers. -/
lemma Exportable.isIssued (h : s.Exportable quiz kind) {x : String}
    (hx : x ∈ s.subjectIds quiz.courseId kind) : Uuid.isIssued x = true := by
  cases kind with
  | user =>
    obtain ⟨u, hu, rfl⟩ := List.mem_map.mp hx
    exact h.users.2 u hu
  | group =>
    obtain ⟨g, hg, rfl⟩ := List.mem_map.mp hx
    exact h.groups.2 g (List.mem_filter.mp hg).1

/-- **The lines of a template agree with the tables.** -/
theorem Exportable.fits (h : s.Exportable quiz kind) {l : Template.Line}
    (hl : l ∈ s.templateLines quiz kind) : l.Fits s quiz kind := by
  have hknown : l.id ∈ s.subjectIds quiz.courseId kind ∧
      l.override? = Template.overrideOf? kind l.id (s.overridesOf quiz) := by
    unfold templateLines at hl
    cases kind with
    | user =>
      obtain ⟨u, hu, rfl⟩ := List.mem_map.mp (List.mem_filter.mp hl).1
      exact ⟨List.mem_map_of_mem (mem_usersOf.mp hu).1, rfl⟩
    | group =>
      obtain ⟨g, hg, rfl⟩ := List.mem_map.mp hl
      obtain ⟨hg, hcourse⟩ := mem_groupsOf.mp hg
      exact ⟨List.mem_map_of_mem (List.mem_filter.mpr ⟨hg, beq_iff_eq.mpr hcourse⟩), rfl⟩
  have hissued := h.isIssued hknown.1
  refine ⟨hissued, hknown.1, hknown.2.trans ?_⟩
  exact overrideOf?_overridesOf h.table.wellFormed quiz kind (Uuid.ne_empty_of_isIssued hissued)

/-- A subject that has an override has a line. -/
lemma Exportable.exists_line (h : s.Exportable quiz kind) {x : String} {o : Override}
    (hx : x ∈ s.subjectIds quiz.courseId kind) (ho : o ∈ s.overrides)
    (howned : OverrideKey.owns ⟨.given quiz.id, kind, x⟩ o = true) :
    ∃ l ∈ s.templateLines quiz kind, l.id = x := by
  have hne := Uuid.ne_empty_of_isIssued (h.isIssued hx)
  unfold templateLines
  cases kind with
  | user =>
    obtain ⟨u, hu, rfl⟩ := List.mem_map.mp hx
    obtain ⟨hquiz, hsubject⟩ := OverrideKey.owns_iff.mp howned
    have hlisted : u.id ∈ Template.subjects .user (s.overridesOf quiz) := by
      refine List.mem_filterMap.mpr ⟨o, List.mem_filter.mpr ⟨ho, beq_iff_eq.mpr hquiz⟩, ?_⟩
      rw [hsubject, given?_some hne]
    have hfound : (Template.overrideOf? .user u.id (s.overridesOf quiz)).isSome = true := by
      rw [overrideOf?_overridesOf h.table.wellFormed quiz .user hne]
      exact List.find?_isSome.mpr ⟨o, ho, howned⟩
    exact ⟨.ofUser (s.overridesOf quiz) u, List.mem_filter.mpr
      ⟨List.mem_map_of_mem (mem_usersOf.mpr ⟨hu, hlisted⟩), hfound⟩, rfl⟩
  | group =>
    obtain ⟨g, hg, rfl⟩ := List.mem_map.mp hx
    obtain ⟨hg, hcourse⟩ := List.mem_filter.mp hg
    exact ⟨.ofGroup (s.overridesOf quiz) g,
      List.mem_map_of_mem (mem_groupsOf.mpr ⟨hg, beq_iff_eq.mp hcourse⟩), rfl⟩

/-- No two lines are about the same subject. -/
lemma Exportable.nodup_ids (h : s.Exportable quiz kind) :
    ((s.templateLines quiz kind).map Template.Line.id).Nodup := by
  unfold templateLines
  cases kind with
  | user =>
    have husers (ids : List String) : ((s.usersOf ids).map User.id).Nodup :=
      ((List.mergeSort_perm _ _).map User.id).nodup_iff.mpr
        (h.users.1.sublist (List.filter_sublist.map User.id))
    refine List.Nodup.sublist (List.filter_sublist.map Template.Line.id) ?_
    rw [List.map_map]
    exact husers _
  | group =>
    have hgroups : ((s.groupsOf quiz.courseId).map CourseGroup.id).Nodup :=
      ((List.mergeSort_perm _ _).map CourseGroup.id).nodup_iff.mpr
        (h.groups.1.sublist (List.filter_sublist.map CourseGroup.id))
    dsimp only
    rw [List.map_map]
    exact hgroups

/-- **The lines of a template show the exported overrides**, each of them once. -/
theorem Exportable.filterMap_templateLines (h : s.Exportable quiz kind) :
    ((s.templateLines quiz kind).filterMap Template.Line.override?).Perm
      (s.exported quiz kind) := by
  have hwf := h.table.wellFormed
  have hlines : ((s.templateLines quiz kind).filterMap Template.Line.override?).Nodup := by
    refine nodup_filterMap_of_rel (f := fun l => some l.id)
      (R := fun x o => OverrideKey.owns ⟨.given quiz.id, kind, x⟩ o = true)
      (fun x x' o => OverrideKey.subject_eq_of_owns)
      (fun l hl o ho => ⟨l.id, rfl, ((h.fits hl).owns ho).2⟩) ?_
    rw [List.filterMap_eq_map']
    exact h.nodup_ids
  have hexported : (s.exported quiz kind).Nodup := hwf.ids_nodup.of_map.sublist List.filter_sublist
  refine (List.perm_ext_iff_of_nodup hlines hexported).mpr fun o => ?_
  rw [List.mem_filterMap, mem_exported]
  constructor
  · rintro ⟨l, hl, ho⟩
    have hfits := h.fits hl
    obtain ⟨hmem, howned⟩ := hfits.owns ho
    exact ⟨hmem, l.id, hfits.known, howned⟩
  · rintro ⟨ho, x, hx, howned⟩
    obtain ⟨l, hl, rfl⟩ := h.exists_line hx ho howned
    exact ⟨l, hl, (h.fits hl).found.trans (hwf.find?_eq_of_owns ho howned)⟩

end Site

/-! ### Rows of lines -/

/-- **A row restores an override** for a subject: it updates the override with what is stored. -/
structure ImportRow.Restores (row : ImportRow) (x : String) (o : Override) : Prop where
  draft : row.draft = ⟨o.id, o.data⟩
  action : row.action = .update
  errorless : row.errors.isEmpty = true
  subject : row.subjectId = some x

/-- A known subject with an issued identifier is found. -/
lemma Site.exists_subject? {s : Site} {kind : SubjectKind} {courseId x : String}
    (hissued : Uuid.isIssued x = true) (hx : x ∈ s.subjectIds courseId kind) :
    ∃ y, s.subject? kind (.given courseId) x = some y := by
  unfold subject?
  rw [if_pos hissued]
  cases kind with
  | user =>
    obtain ⟨u, hu, rfl⟩ := List.mem_map.mp hx
    refine Option.isSome_iff_exists.mp ?_
    rw [Option.isSome_map]
    exact List.find?_isSome.mpr ⟨u, hu, beq_self_eq_true _⟩
  | group =>
    obtain ⟨g, hg, rfl⟩ := List.mem_map.mp hx
    obtain ⟨hg, hcourse⟩ := List.mem_filter.mp hg
    refine Option.isSome_iff_exists.mp ?_
    rw [Option.isSome_map]
    refine List.find?_isSome.mpr ⟨g, hg, ?_⟩
    rw [beq_iff_eq.mp hcourse]
    simp [Field.holds]

namespace Template.Line.Fits

variable {s : Site} {quiz : Quiz} {kind : SubjectKind} {zone : Option Zone} {l : Template.Line}

/-- **The row of the cells of a line** has no errors, and the values of the line. -/
lemma rowOf_record (h : l.Fits s quiz kind) (hread : Readable zone l.values)
    (pinned : RowPasswords) :
    ∃ name, s.rowOf (.ofQuiz (.kind kind) quiz pinned) (l.record zone) =
      { fields :=
          { subjectId := some l.id
            subjectName := some name
            timeOpen := l.values.timeOpen
            timeClose := l.values.timeClose
            timeLimit := l.values.timeLimit
            attempts := l.values.attempts
            password := l.values.password
            generatePassword := false }
        errors := {} } := by
  obtain ⟨y, hy⟩ := s.exists_subject? h.issued h.known
  have hsubject : s.subjectReading kind (.given quiz.courseId) (.ofRecord (l.record zone)) =
      ⟨some l.id, some y.name, none⟩ := by
    unfold Site.subjectReading Site.namedSubject
    rw [show (Cells.ofRecord (l.record zone)).subjectId = l.id from rfl,
      Uuid.trim_of_isIssued h.issued, if_pos (Uuid.ne_empty_of_isIssued h.issued), hy]
    rfl
  -- readable times are in order, so that no error is found between two cells
  have hordered : opensAfterClose l.values.timeOpen l.values.timeClose = false := by
    unfold opensAfterClose
    split
    · rename_i o c ho hc
      exact decide_eq_false (Int.not_lt.mpr (hread.ordered o c ho hc))
    · rfl
  refine ⟨y.name, ?_⟩
  unfold Site.rowOf Site.validated
  rw [readCells_record hread]
  unfold RunSettings.ofQuiz Mode.lookupKind
  dsimp only
  rw [hsubject]
  unfold assembleRow
  dsimp only
  rw [hordered]
  rfl

/-- The override that the cells of a line are about is that of the line. -/
lemma ownedBy_record (h : l.Fits s quiz kind) (hread : Readable zone l.values)
    (pinned : RowPasswords) :
    s.ownedBy (.ofQuiz (.kind kind) quiz pinned) (l.record zone) =
      l.override?.bind Override.id := by
  obtain ⟨name, hrow⟩ := h.rowOf_record hread pinned
  rw [h.found]
  refine Site.ownedBy_eq ?_ (Uuid.ne_empty_of_isIssued h.issued)
  rw [hrow]
  rfl

/-- Nothing is listed for a subject without an override. -/
lemma listing_eq_none (h : l.Fits s quiz kind) (hnone : l.override? = none) (pinned : RowPasswords)
    (number : Nat) (password : Option String) :
    s.listing (.ofQuiz (.kind kind) quiz pinned) number (l.record zone) password = none := by
  have hvalues := values_of_none hnone
  have howned := h.ownedBy_record (hvalues ▸ readable_noValues zone) pinned
  have hblank : (Cells.ofRecord (l.record zone)).isBlank = true := by
    unfold record
    rw [hvalues]
    rfl
  unfold Site.listing RunSettings.listed
  rw [howned, hblank, hnone]
  rfl

/-- **The row that is listed for a subject with an override** restores the override. -/
lemma exists_restoring (h : l.Fits s quiz kind) (hwf : WellFormed s.overrides) {o : Override}
    (ho : l.override? = some o) (hread : Readable zone l.values) (hgiven : l.values ≠ noValues)
    {pinned : RowPasswords} {number : Nat} {password : Option String}
    (hpassword : s.MayGive (s.rowOf (.ofQuiz (.kind kind) quiz pinned) (l.record zone))
      (pinned.lookup number) password) :
    ∃ row, s.listing (.ofQuiz (.kind kind) quiz pinned) number (l.record zone) password = some row ∧
      row.Restores l.id o := by
  obtain ⟨name, hrow⟩ := h.rowOf_record hread pinned
  obtain ⟨hmem, howns⟩ := h.owns ho
  obtain ⟨id, hid, hne⟩ := hwf.id_given o hmem
  have howned : s.ownedBy (.ofQuiz (.kind kind) quiz pinned) (l.record zone) = some id := by
    rw [h.ownedBy_record hread, ho]
    exact hid
  -- the row asks for no password, so that it is given its own
  obtain rfl : password = l.values.password := by
    rw [hrow] at hpassword
    exact hpassword
  have haction : OverrideAction.decide (Cells.ofRecord (l.record zone)).isBlank
      (given? (some id)).isSome = .update := by
    rw [isBlank_record hread hgiven, given?_some hne]
    rfl
  refine ⟨_, Site.listing_eq_some.mpr ⟨?_, rfl⟩, ?_⟩
  · rw [howned, haction]
    decide
  · rw [howned, hrow]
    refine ⟨?_, haction, rfl, rfl⟩
    dsimp only
    rw [hid, OverrideKey.data_eq_of_owns howns (hwf.single o hmem), ← values_of_some ho]
    rfl

end Template.Line.Fits

/-- **What a run lists for the cells of lines**: in their order, an update of each override that a
line has, to what is stored. -/
theorem Site.Lists.of_lines {s : Site} {quiz : Quiz} {kind : SubjectKind} {pinned : RowPasswords}
    {zone : Option Zone} {lines : List Template.Line} {number : Nat} {rows : List ImportRow}
    (hl : s.Lists (.ofQuiz (.kind kind) quiz pinned) number
      (lines.map (Template.Line.record zone)) rows)
    (hwf : WellFormed s.overrides) (hfits : ∀ l ∈ lines, l.Fits s quiz kind)
    (hread : ∀ l ∈ lines, Template.Readable zone l.values)
    (hgiven : ∀ l ∈ lines, ∀ o, l.override? = some o → l.values ≠ Template.noValues) :
    rows.map ImportRow.draft =
        (lines.filterMap Template.Line.override?).map (fun o => ⟨o.id, o.data⟩) ∧
      (∀ row ∈ rows, row.action = .update ∧ row.errors.isEmpty = true) ∧
      (rows.map ImportRow.subjectId).Sublist (lines.map fun l => some l.id) := by
  -- each line adds one row or none, so that the rows keep the order of the lines
  induction lines generalizing number rows with
  | nil =>
    cases hl
    simp
  | cons l rest ih =>
    obtain ⟨hfit, hfits⟩ := List.forall_mem_cons.mp hfits
    obtain ⟨hreadable, hread⟩ := List.forall_mem_cons.mp hread
    obtain ⟨hvalues, hgiven⟩ := List.forall_mem_cons.mp hgiven
    cases hl with
    | @cons _ _ _ rows password hpassword hrest =>
      obtain ⟨hdrafts, hrows, hsubjects⟩ := ih hrest hfits hread hgiven
      rw [List.map_cons (l := rest) (f := fun l : Template.Line => some l.id)]
      rcases ho : l.override? with _ | o
      · rw [hfit.listing_eq_none ho, List.filterMap_cons_none ho]
        exact ⟨hdrafts, hrows, hsubjects.cons _⟩
      · obtain ⟨row, hrow, hrestores⟩ :=
          hfit.exists_restoring hwf ho hreadable (hvalues o ho) hpassword
        rw [hrow, List.filterMap_cons_some ho]
        simp only [Option.toList_some, List.singleton_append, List.map_cons, hrestores.draft,
          hrestores.subject, hdrafts, true_and]
        exact ⟨List.forall_mem_cons.mpr ⟨⟨hrestores.action, hrestores.errorless⟩, hrows⟩,
          hsubjects.cons_cons _⟩

/-! ### Templates -/

/-- A text is plain by its first character, if that is neither a mark nor a blank and does not begin
a line that names the separator. -/
lemma Csv.plain_cons {c : Char} {rest : List Char} (hmark : c.toNat ≠ 0xFEFF)
    (hblank : Text.isBlank c = false) (hsep : c ≠ 's') : Csv.Plain (c :: rest) := by
  apply plain_of_head
  · intro e he
    obtain rfl := Option.some.inj he
    exact ⟨hmark, hsep⟩
  · exact ⟨c, List.mem_cons_self, hblank⟩

/-- The text under a header is plain, as it begins with the name of the first column. -/
lemma Csv.plain_write_header (kind : SubjectKind) (records : List (List String)) :
    Csv.Plain (Csv.write (header kind :: records)).toList := by
  have hfirst {line : List Char} {c : Char} {cs : List Char} (hline : line = c :: cs)
      (lines : List (List Char)) : ∃ rest, ['\n'].intercalate (line :: lines) = c :: rest := by
    rw [hline]
    cases lines with
    | nil => exact ⟨cs, List.intercalate_singleton⟩
    | cons l lines => exact ⟨_, List.intercalate_cons_cons⟩
  unfold write
  rw [String.toList_ofList, List.map_cons]
  cases kind with
  | user =>
    obtain ⟨rest, hrest⟩ := hfirst (show writeRow (header .user) = 'u' :: _ from rfl)
      (records.map writeRow)
    rw [hrest]
    exact plain_cons (by decide) (by decide) (by decide)
  | group =>
    obtain ⟨rest, hrest⟩ := hfirst (show writeRow (header .group) = 'g' :: _ from rfl)
      (records.map writeRow)
    rw [hrest]
    exact plain_cons (by decide) (by decide) (by decide)

/-- **A template is read back** as its header and its rows. -/
lemma Template.ofText_write {s : Site} {quiz : Quiz} {kind : SubjectKind}
    (h : s.Exportable quiz kind) {rows : List (List String)} {s' : Site}
    (hrows : (Template.rows quiz kind).Returns s rows s') :
    Csv.Table.ofText (Csv.write (header kind :: rows)) .comma = ⟨header kind, rows⟩ := by
  have hheader : header kind ≠ [] ∧ (∀ cell ∈ header kind, cell ≠ "") ∧
      ∀ cell ∈ header kind, '\r' ∉ cell.toList := by
    cases kind <;> decide
  have hunbroken := List.forall_mem_cons.mpr ⟨hheader.2.2, h.unbroken rows s' hrows⟩
  obtain rfl := (rows_looks quiz kind).returns hrows
  refine Csv.Table.ofText_write hheader.1 hheader.2.1 ?_ ?_
    (fun row hrow cell hcell => Csv.kept_of_not_mem (hunbroken row hrow cell hcell))
    (Csv.plain_write_header kind _)
  · refine List.forall_mem_map.mpr fun l _ => ?_
    cases kind <;> rfl
  · refine List.forall_mem_map.mpr fun l hl => ?_
    have hne := Uuid.ne_empty_of_isIssued (h.fits hl).issued
    exact List.any_eq_true.mpr ⟨l.id, List.mem_cons_self, by simpa using hne⟩

/-- **The rows that a run lists for a template** can be imported, and are updates of the exported
overrides to what is stored. -/
lemma Site.Exportable.lists {s : Site} {quiz : Quiz} {kind : SubjectKind}
    (h : s.Exportable quiz kind) {pinned : RowPasswords} {rows : List ImportRow}
    (hl : s.Lists (.ofQuiz (.kind kind) quiz pinned) 0
      ((s.templateLines quiz kind).map (Template.Line.record s.templateZone)) rows) :
    markDuplicates rows = rows ∧
      (∀ row ∈ rows, row.action = .update ∧ row.errors.isEmpty = true) ∧
      (rows.map ImportRow.draft).Perm
        ((s.exported quiz kind).map fun o => ⟨o.id, o.data⟩) := by
  -- a line shows the override of its subject, which is sound and among those exported
  have hvalues (l : Template.Line) (hline : l ∈ s.templateLines quiz kind) (o : Override)
      (ho : l.override? = some o) : l.values = o.data.values ∧ o.data.values.Sound ∧
        o ∈ s.exported quiz kind := by
    obtain ⟨hmem, howned⟩ := (h.fits hline).owns ho
    exact ⟨Template.Line.values_of_some ho, h.table.values o hmem,
      mem_exported.mpr ⟨hmem, l.id, (h.fits hline).known, howned⟩⟩
  have hread (l : Template.Line) (hline : l ∈ s.templateLines quiz kind) :
      Template.Readable s.templateZone l.values := by
    rcases ho : l.override? with _ | o
    · rw [Template.Line.values_of_none ho]
      exact Template.readable_noValues _
    · obtain ⟨heq, hsound, hexported⟩ := hvalues l hline o ho
      rw [heq]
      exact Template.readable_of_sound hsound (h.times o hexported)
  obtain ⟨hdrafts, hrows, hsubjects⟩ := hl.of_lines h.table.wellFormed (fun l hline => h.fits hline)
    hread fun l hline o ho => by
      obtain ⟨heq, hsound, -⟩ := hvalues l hline o ho
      rw [heq]
      exact hsound.given
  refine ⟨markFrom_of_nodup ?_ fun _ _ => rfl, hrows, ?_⟩
  · -- no two lines are about one subject, and the rows have the subjects of lines
    have hknown : rows.filterMap ImportRow.knownSubject =
        (rows.map ImportRow.subjectId).filterMap given? := by
      rw [List.filterMap_map]
      exact List.filterMap_congr fun row hrow =>
        ImportRow.knownSubject_of_errorless (hrows row hrow).2
    have hnodup : (rows.map ImportRow.subjectId).Nodup := by
      refine List.Nodup.sublist hsubjects ?_
      rw [← Function.comp_def, ← List.map_map]
      exact h.nodup_ids.map fun _ _ => Option.some.inj
    rw [hknown]
    refine hnodup.filterMap fun a a' x ha ha' => ?_
    rw [(Option.filter_eq_some_iff.mp ha).1, (Option.filter_eq_some_iff.mp ha').1]
  · rw [hdrafts]
    exact h.filterMap_templateLines.map _

/-- Updates of exported overrides to what is stored leave the table as it is. -/
lemma Site.Exportable.applied_eq {s : Site} {quiz : Quiz} {kind : SubjectKind}
    (h : s.Exportable quiz kind) {rows : List ImportRow}
    (hupdate : ∀ row ∈ rows, row.action = .update)
    (hdrafts : (rows.map ImportRow.draft).Perm
      ((s.exported quiz kind).map fun o => ⟨o.id, o.data⟩)) (n : Nat) :
    applied n (rows.map ImportRow.change) s.overrides = s.overrides := by
  refine applied_of_stored h.table.wellFormed.ids_nodup (List.forall_mem_map.mpr hupdate)
    (List.forall_mem_map.mpr fun row hrow => ?_) n
  obtain ⟨o, ho, hdraft⟩ :=
    List.mem_map.mp (hdrafts.subset (List.mem_map_of_mem (f := ImportRow.draft) hrow))
  exact ⟨o, (List.mem_filter.mp ho).1, hdraft.symm⟩

/-- **A template is imported without changing anything.** The file that is built for a quiz is
accepted and can be imported. Its rows are updates, one for each override of the quiz whose subject
there is, with the identifier and the data of the override; making them leaves the table as it is.

**Proof sketch.** The text is read back as the cells of the lines of the template. For each line the
run finds the subject and its override again, and reads each value from its cell. A line without an
override is blank and is skipped, while sound values leave a cell that is not empty, so that no
override is taken for one to be deleted. -/
theorem ImportService.buildTemplate_imports_back {s : Site} {quiz : Quiz} {kind : SubjectKind}
    (h : s.Exportable quiz kind) (hs : s.faults = []) (pinned : RowPasswords) :
    ∃ template s₁ run s₂, (buildTemplate quiz (.kind kind)).Returns s template s₁ ∧
      runOn (ImportRun.processIn
        { settings := .ofQuiz (.kind kind) quiz pinned
          table := .ofText template.content .comma }) s₁ = ((.ok (.ok true), run), s₂) ∧
      run.headerError = none ∧ run.canImport = true ∧
      (∀ row ∈ run.rows, row.action = .update) ∧
      (run.rows.map ImportRow.draft).Perm
        ((s.exported quiz kind).map fun o => ⟨o.id, o.data⟩) ∧
      ∀ n, applied n (run.rows.map ImportRow.change) s.overrides = s.overrides := by
  have hlooks := Template.rows_looks quiz kind
  obtain ⟨s₁, hrows, hs₁⟩ := hlooks.quiet hs
  have hrecords : s₁.records = s.records := hlooks.frames.records.returns hrows
  have haccepted : checkHeader (.kind kind) (header kind) = none := by
    cases kind <;> rfl
  obtain ⟨run, s₂, hprocess, -⟩ := ImportRun.process_quiet
    { settings := .ofQuiz (.kind kind) quiz pinned
      table := ⟨header kind,
        (s.templateLines quiz kind).map (Template.Line.record s.templateZone)⟩ }
    hs₁ haccepted
  obtain ⟨⟨-, hheader⟩, -, hprocessed, rows, hlists, hrun⟩ := ImportRun.process_accepts hprocess
  obtain ⟨hmarked, hlisted, hdrafts⟩ := h.lists (hlists.congr hrecords)
  rw [hmarked] at hrun
  subst hrun
  have hupdate (row : ImportRow) (hrow : row ∈ run.rows) : row.action = .update :=
    (hlisted row hrow).1
  have hcan : run.canImport = true :=
    Bool.and_eq_true_iff.mpr ⟨hprocessed, List.all_eq_true.mpr fun row hrow => (hlisted row hrow).2⟩
  refine ⟨_, s₁, run, s₂, buildTemplate_returns hrows, ?_, hheader, hcan, hupdate, hdrafts,
    h.applied_eq hupdate hdrafts⟩
  rw [← Template.ofText_write h hrows] at hprocess
  exact ImportRun.runOn_processIn (Mode.headerFault?_kind kind _) hprocess

/-! ### A site with a quoted password -/

/-- The quiz of the site. -/
def quotedQuiz : Quiz :=
  ⟨"00000000-0000-4000-8000-0000000000a1", "00000000-0000-4000-8000-0000000000c1", some "Quiz",
    none⟩

/-- A site with two users, of whom the first has an override with a password that has to be quoted.
The clocks of its templates change in summer, by the rules that this place has in these years. -/
def quotedSite : Site :=
  { users := [⟨"00000000-0000-4000-8000-0000000000b1", "doe, ann", none, none, none⟩,
      ⟨"00000000-0000-4000-8000-0000000000b2", "bob", some "7", none, none⟩]
    quizzes := [quotedQuiz]
    overrides :=
      [⟨some "first", .forSubject (.given quotedQuiz.id) .user
        (some "00000000-0000-4000-8000-0000000000b1")
        ⟨some 1704067200000, some 1719837000000, some (.finite 3600), none,
          some "a,\"b\"\nc"⟩⟩]
    options := { ImportOptions.standard with timeZone := "America/St_Johns" }
    runtime.zones.place name :=
      if name = "America/St_Johns" then
        some (.seasonal (-210) (-150) ⟨3, .nth 2, 120, -210⟩ ⟨11, .nth 1, 120, -150⟩)
      else none }

/-- The zone of the site shows both times of its override, in winter and in summer. -/
lemma quotedSite_shows {i : Instant} (h : i = 1704067200000 ∨ i = 1719837000000) :
    Shown quotedSite.templateZone i := by
  have hzone : quotedSite.templateZone =
      some (.seasonal (-210) (-150) ⟨3, .nth 2, 120, -210⟩ ⟨11, .nth 1, 120, -150⟩) :=
    rfl
  rcases h with rfl | rfl
  · exact ⟨by decide, _, -210, hzone, by decide +kernel⟩
  · exact ⟨by decide, _, -150, hzone, by decide +kernel⟩

/-- The values of the quoted site are sound. -/
lemma quotedSite_sound {o : Override} (ho : o ∈ quotedSite.overrides) : o.data.values.Sound := by
  obtain rfl := List.mem_singleton.mp ho
  constructor
  case timeLimit => exact fun w hw => ⟨3600, (Option.some.inj hw).symm, by decide⟩
  case attempts => exact fun w hw => nomatch hw
  case password =>
    intro p hp
    obtain rfl := Option.some.inj hp
    exact ⟨by decide, by decide, by decide⟩
  case times =>
    intro o c ho hc
    obtain rfl := Option.some.inj ho
    obtain rfl := Option.some.inj hc
    decide
  case given => decide

/-- The quoted site can be exported. -/
lemma quotedSite_exportable : quotedSite.Exportable quotedQuiz .user where
  table.values o ho := quotedSite_sound ho
  table.wellFormed.ids_nodup := by decide
  table.wellFormed.id_given o ho := by
    obtain rfl := List.mem_singleton.mp ho
    exact ⟨"first", rfl, by decide⟩
  table.wellFormed.single o ho := by
    obtain rfl := List.mem_singleton.mp ho
    rfl
  table.wellFormed.unique k := List.length_filter_le _ _
  users := by decide +kernel
  groups := by decide
  times o ho i hi := by
    obtain rfl := List.mem_singleton.mp (List.mem_filter.mp ho).1
    exact quotedSite_shows (hi.imp (fun h => (Option.some.inj h).symm)
      fun h => (Option.some.inj h).symm)
  unbroken rows s' hrows := by
    obtain rfl := (Template.rows_looks _ _).returns hrows
    decide +kernel

/-- The password with a comma, quotes and a line feed comes back with both times. -/
theorem ImportService.buildTemplate_imports_back_quotedSite :
    quotedSite.Exportable quotedQuiz .user ∧ quotedSite.faults = [] ∧
    (quotedSite.exported quotedQuiz .user).length = 1 ∧
    ∃ template s₁ run s₂, (buildTemplate quotedQuiz (.kind .user)).Returns quotedSite template s₁ ∧
      runOn (ImportRun.processIn
        { settings := .ofQuiz (.kind .user) quotedQuiz []
          table := .ofText template.content .comma }) s₁ = ((.ok (.ok true), run), s₂) ∧
      run.headerError = none ∧ run.canImport = true ∧
      (∀ row ∈ run.rows, row.action = .update) ∧
      (run.rows.map ImportRow.draft).Perm
        ((quotedSite.exported quotedQuiz .user).map fun o => ⟨o.id, o.data⟩) ∧
      ∀ n, applied n (run.rows.map ImportRow.change) quotedSite.overrides =
        quotedSite.overrides :=
  ⟨quotedSite_exportable, rfl, by decide +kernel,
    buildTemplate_imports_back quotedSite_exportable rfl []⟩

end QuizOverrides
