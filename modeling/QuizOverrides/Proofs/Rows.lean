import QuizOverrides.Proofs.Keys
import QuizOverrides.Proofs.Requests

set_option autoImplicit false

/-!
# Rows without errors

A row without errors is about a subject that the tables name. The rows of a run that can be imported
are therefore reconciled with the table of overrides, and their changes can be applied to it.

## Main definitions

* `QuizOverrides.Site.HasIds` — users and groups have identifiers.
* `QuizOverrides.Site.ListedRow` — what a row without errors has been made of.

## Main results

* `QuizOverrides.Site.Lists.applicable` — the changes of rows without errors can be applied.
* `QuizOverrides.Site.Lists.rowsFit` — rows without errors fit a well-formed table.
* `QuizOverrides.ImportService.commitChanges_returns_of_revalidate`,
  `QuizOverrides.ImportService.commitChanges_throws_of_revalidate` — what the transaction of a
  commit does with the rows that have been revalidated.
* `QuizOverrides.ImportService.commit_returns_applied` — the table after a commit that returns.
-/

namespace QuizOverrides

/-- **Users and groups have identifiers** that are not empty. -/
def Site.HasIds (s : Site) : Prop :=
  (∀ u ∈ s.users, u.id ≠ "") ∧ ∀ g ∈ s.groups, g.id ≠ ""

/-! ### Subjects -/

/-- The subject that a search has found is the only one it has fetched. -/
lemma SubjectLookup.eq_singleton {found : List Subject} {x : Subject}
    (h : SubjectLookup.ofMatches found = .found x) : found = [x] := by
  match found, h with
  | [y], h => rw [SubjectLookup.found.inj h]

/-- The user that is found is one of the site. -/
lemma Site.foundUsers_mem {s : Site} {p : User → Bool} {x : Subject}
    (h : s.foundUsers p = .found x) : ∃ u ∈ s.users, x = u.subject := by
  have hmem : x ∈ ((s.users.filter p).take Directory.fetched).map User.subject := by
    rw [SubjectLookup.eq_singleton h]
    exact List.mem_singleton_self x
  obtain ⟨u, hu, rfl⟩ := List.mem_map.mp hmem
  exact ⟨u, (List.mem_filter.mp (List.mem_of_mem_take hu)).1, rfl⟩

/-- The group that is found is one of the site. -/
lemma Site.foundGroups_mem {s : Site} {p : CourseGroup → Bool} {x : Subject}
    (h : s.foundGroups p = .found x) : ∃ g ∈ s.groups, x = g.subject := by
  have hmem : x ∈ ((s.groups.filter p).take Directory.fetched).map CourseGroup.subject := by
    rw [SubjectLookup.eq_singleton h]
    exact List.mem_singleton_self x
  obtain ⟨g, hg, rfl⟩ := List.mem_map.mp hmem
  exact ⟨g, (List.mem_filter.mp (List.mem_of_mem_take hg)).1, rfl⟩

/-- A subject that a search has found has an identifier. -/
lemma Site.HasIds.foundSubjects {s : Site} (hs : s.HasIds) {kind : SubjectKind}
    {courseId : Field String} {c : SubjectCriteria} {x : Subject}
    (h : s.foundSubjects kind courseId c = .found x) : x.id ≠ "" := by
  unfold Site.foundSubjects at h
  cases kind <;> dsimp only at h <;> split_ifs at h
  · obtain ⟨u, hu, rfl⟩ := foundUsers_mem h
    exact hs.1 u hu
  · obtain ⟨u, hu, rfl⟩ := foundUsers_mem h
    exact hs.1 u hu
  · obtain ⟨g, hg, rfl⟩ := foundGroups_mem h
    exact hs.2 g hg
  · obtain ⟨g, hg, rfl⟩ := foundGroups_mem h
    exact hs.2 g hg

/-- **A subject without an error** has an identifier. -/
theorem Site.HasIds.subjectReading {s : Site} (hs : s.HasIds) {kind : SubjectKind}
    {courseId : Field String} {c : Cells}
    (h : (s.subjectReading kind courseId c).error = none) :
    ∃ x, (s.subjectReading kind courseId c).id = some x ∧ x ≠ "" := by
  unfold Site.subjectReading Site.namedSubject at h ⊢
  split_ifs at h ⊢ with hid hnumber hname
  · refine ⟨_, ?_, hid⟩
    rcases s.subject? kind courseId (Text.trim c.subjectId) with _ | x <;> rfl
  · rcases hfound : s.foundSubjects kind courseId ⟨.given (Text.trim c.subjectIdNumber), .absent⟩
      with x | _ | n <;> simp [hfound, SubjectReading.ofLookup] at h ⊢
    exact hs.foundSubjects hfound
  · rcases hfound : s.foundSubjects kind courseId ⟨.absent, .given (Text.trim c.subjectName)⟩
      with x | _ | n <;> simp [hfound, SubjectReading.ofLookup] at h ⊢
    exact hs.foundSubjects hfound

/-! ### Rows -/

/-- A text that is not empty is given. -/
lemma given?_some {x : String} (h : x ≠ "") : given? (some x) = some x := by
  simp [given?, h]

/-- The override of a subject is looked up by its key. -/
lemma Site.existing?_eq (s : Site) (quizId : Field String) (kind : SubjectKind)
    (subject : Option String) :
    s.existing? quizId kind subject = (given? subject).bind fun x =>
      (s.overrides.find? (OverrideKey.owns ⟨quizId, kind, x⟩)).bind Override.id := by
  unfold existing? override?
  simp only [OverrideFilter.admits_forSubject]

/-- The subject of the row of a record. -/
lemma Site.rowOf_subjectId (s : Site) (st : RunSettings) (record : List String) :
    (s.rowOf st record).fields.subjectId =
      (s.subjectReading st.mode.lookupKind st.quiz.courseId (.ofRecord record)).id := by
  simp only [rowOf, validated, assembleRow]

/-- The name of the subject is the one that is read off its columns. -/
lemma Site.rowOf_subjectName (s : Site) (st : RunSettings) (record : List String) :
    (s.rowOf st record).fields.subjectName =
      (s.subjectReading st.mode.lookupKind st.quiz.courseId (.ofRecord record)).name := by
  simp only [rowOf, validated, assembleRow]

/-- The error of the subject is the one that its columns give. -/
lemma Site.rowOf_subjectError (s : Site) (st : RunSettings) (record : List String) :
    (s.rowOf st record).errors.subject =
      (s.subjectReading st.mode.lookupKind st.quiz.courseId (.ofRecord record)).error := by
  simp only [rowOf, validated, assembleRow]

/-- Where nothing is wrong, there is no error of any field. -/
lemma FieldErrors.eq_of_isEmpty {e : FieldErrors} (h : e.isEmpty = true) : e = {} := by
  obtain ⟨subject, timeOpen, timeClose, timeLimit, attempts, password, generate⟩ := e
  simp only [isEmpty, Bool.and_eq_true, Option.isNone_iff_eq_none] at h
  obtain ⟨⟨⟨⟨⟨⟨rfl, rfl⟩, rfl⟩, rfl⟩, rfl⟩, rfl⟩, rfl⟩ := h
  rfl

/-- A row without errors has none about its subject. -/
lemma FieldErrors.subject_of_isEmpty {e : FieldErrors} (h : e.isEmpty = true) :
    e.subject = none := by
  rw [eq_of_isEmpty h]

/-- A row without errors is about its subject. -/
lemma ValidatedRow.owner_of_errorless {row : ValidatedRow} (h : row.errors.isEmpty = true) :
    row.owner = row.fields.subjectId := by
  unfold owner
  rw [FieldErrors.subject_of_isEmpty h]
  rfl

/-- The override that a record is about is that of its subject. -/
lemma Site.ownedBy_eq {s : Site} {kind : SubjectKind} {quiz : Quiz} {pinned : RowPasswords}
    {record : List String} {x : String}
    (howner : (s.rowOf (.ofQuiz (.kind kind) quiz pinned) record).owner = some x) (hx : x ≠ "") :
    s.ownedBy (.ofQuiz (.kind kind) quiz pinned) record =
      (s.overrides.find? (OverrideKey.owns ⟨.given quiz.id, kind, x⟩)).bind Override.id := by
  unfold ownedBy
  rw [howner, existing?_eq, given?_some hx]
  rfl

/-- Rows with the same number among those of a scan are one row. -/
lemma Site.Lists.eq_of_number {s : Site} {st : RunSettings} {number : Nat}
    {records : List (List String)} {rows : List ImportRow} (h : s.Lists st number records rows)
    {row row' : ImportRow} (hrow : row ∈ rows) (hrow' : row' ∈ rows)
    (hnumber : row.number = row'.number) : row = row' := by
  have hnodup : (rows.map ImportRow.number).Nodup :=
    List.pairwise_map.mpr (h.sorted.imp fun hlt => Nat.ne_of_lt hlt)
  exact List.inj_on_of_nodup_map hnodup hrow hrow' hnumber

/-- What a listed row without errors is. -/
structure Site.ListedRow (s : Site) (st : RunSettings) (row : ImportRow) (record : List String)
    (password : Option String) : Prop where
  gives : s.MayGive (s.rowOf st record) (st.pinned.lookup row.number) password
  cells : row.cells = .ofRecord record
  errors : row.errors = (s.rowOf st record).errors
  subject : row.subjectId =
    (s.subjectReading st.mode.lookupKind st.quiz.courseId row.cells).id
  resolved : (s.subjectReading st.mode.lookupKind st.quiz.courseId row.cells).error = none
  existing : row.draft.id = s.existing? st.quiz.id st.mode.lookupKind row.subjectId
  action : row.action = .decide row.cells.isBlank (given? row.draft.id).isSome
  listed : row.action ≠ .skip
  data : row.draft.data = st.draftData (s.rowOf st record) password

/-- **A listed row without errors** is about a subject that has been resolved. -/
lemma Site.Lists.listedRow {s : Site} {st : RunSettings} {number : Nat}
    {records : List (List String)} {rows : List ImportRow}
    (hl : s.Lists st number records rows) {row : ImportRow} (hrow : row ∈ rows)
    (herrors : row.errors.isEmpty = true) :
    ∃ record password, records[row.number - number - 1]? = some record ∧
      s.ListedRow st row record password := by
  obtain ⟨record, password, ⟨-, hrecord⟩, hgives, hlisting⟩ := hl.exists_record hrow
  refine ⟨record, password, hrecord, ?_⟩
  generalize row.number = n at hgives hlisting
  obtain ⟨haction, rfl⟩ := listing_eq_some.mp hlisting
  have hresolved : (s.rowOf st record).errors.subject = none :=
    FieldErrors.subject_of_isEmpty herrors
  have howned : s.ownedBy st record =
      s.existing? st.quiz.id st.mode.lookupKind (s.rowOf st record).fields.subjectId := by
    unfold ownedBy ValidatedRow.owner
    rw [hresolved]
    rfl
  have hsubject := s.rowOf_subjectId st record
  have herror := (s.rowOf_subjectError st record).symm.trans hresolved
  constructor
  case gives => dsimp only; exact hgives
  case subject => dsimp only; exact hsubject
  case resolved => dsimp only; exact herror
  case existing => dsimp only; exact howned
  case listed => dsimp only; exact haction
  all_goals dsimp only

/-- The subject of a row without errors is known. -/
lemma ImportRow.knownSubject_of_errorless {row : ImportRow} (h : row.errors.isEmpty = true) :
    row.knownSubject = given? row.subjectId := by
  unfold knownSubject
  rw [FieldErrors.subject_of_isEmpty h]
  rfl

/-- What a listing leaves of distinct values stays distinct when each is put for a value that it
determines. -/
lemma nodup_filterMap_of_rel {α β γ : Type} {f : α → Option β} {g : α → Option γ}
    {R : β → γ → Prop} (hR : ∀ x x' y, R x y → R x' y → x = x') {l : List α}
    (hg : ∀ a ∈ l, ∀ y, g a = some y → ∃ x, f a = some x ∧ R x y)
    (h : (l.filterMap f).Nodup) : (l.filterMap g).Nodup := by
  induction l with
  | nil => simp
  | cons a rest ih =>
    have hrest : (rest.filterMap f).Nodup :=
      h.sublist ((List.sublist_cons_self a rest).filterMap f)
    have ih := ih (fun a' ha' => hg a' (List.mem_cons_of_mem _ ha')) hrest
    rcases hga : g a with _ | y
    · rwa [List.filterMap_cons_none hga]
    · obtain ⟨x, hfa, hxy⟩ := hg a List.mem_cons_self y hga
      rw [List.filterMap_cons_some hfa] at h
      rw [List.filterMap_cons_some hga]
      refine List.nodup_cons.mpr ⟨fun hmem => (List.nodup_cons.mp h).1 ?_, ih⟩
      obtain ⟨a', ha', hga'⟩ := List.mem_filterMap.mp hmem
      obtain ⟨x', hfa', hxy'⟩ := hg a' (List.mem_cons_of_mem _ ha') y hga'
      obtain rfl := hR x x' y hxy hxy'
      exact List.mem_filterMap.mpr ⟨a', ha', hfa'⟩

/-- The override that a row without errors has the identifier of is that of the subject of the
row. -/
lemma Site.Lists.exists_owned {s : Site} {st : RunSettings} {number : Nat}
    {records : List (List String)} {rows : List ImportRow}
    (hl : s.Lists st number records rows) {row : ImportRow} (hrow : row ∈ rows)
    (herrors : row.errors.isEmpty = true) {id : String} (hid : row.draft.id? = some id) :
    ∃ x, row.knownSubject = some x ∧ ∃ o ∈ s.overrides, o.id = some id ∧
      OverrideKey.owns ⟨st.quiz.id, st.mode.lookupKind, x⟩ o = true := by
  obtain ⟨record, password, -, hlisted⟩ := hl.listedRow hrow herrors
  have hknown := ImportRow.knownSubject_of_errorless herrors
  have hexisting := hlisted.existing
  rw [(Option.filter_eq_some_iff.mp hid).1, existing?_eq] at hexisting
  obtain ⟨x, hx, hexisting⟩ := Option.bind_eq_some_iff.mp hexisting.symm
  obtain ⟨o, hfind, ho⟩ := Option.bind_eq_some_iff.mp hexisting
  exact ⟨x, hknown.trans hx, o, List.mem_of_find?_eq_some hfind, ho, List.find?_some hfind⟩

/-- **The changes of rows without errors** about different subjects can be applied. -/
theorem Site.Lists.applicable {s : Site} {st : RunSettings} {number : Nat}
    {records : List (List String)} {rows : List ImportRow}
    (hl : s.Lists st number records rows) (herrors : ∀ row ∈ rows, row.errors.isEmpty = true)
    (hdistinct : (rows.filterMap ImportRow.knownSubject).Nodup)
    (hids : (s.overrides.map Override.id).Nodup) :
    Applicable (rows.map ImportRow.change) s.overrides := by
  refine ⟨?_, fun c hc haction => ?_⟩
  · rw [List.filterMap_map]
    refine nodup_filterMap_of_rel (R := fun x id => ∃ o ∈ s.overrides, o.id = some id ∧
      OverrideKey.owns ⟨st.quiz.id, st.mode.lookupKind, x⟩ o = true) ?_
      (fun row hrow id hid => hl.exists_owned hrow (herrors row hrow)
        (RowChange.id?_of_target (c := row.change) hid)) hdistinct
    rintro x x' id ⟨o, ho, hid, howned⟩ ⟨o', ho', hid', howned'⟩
    obtain rfl : o = o' := List.inj_on_of_nodup_map hids ho ho' (hid.trans hid'.symm)
    exact OverrideKey.subject_eq_of_owns howned howned'
  · obtain ⟨row, hrow, rfl⟩ := List.mem_map.mp hc
    obtain ⟨record, password, -, hlisted⟩ := hl.listedRow hrow (herrors row hrow)
    have hgiven : (given? row.draft.id).isSome = true := by
      by_contra hnone
      have hdecide : row.action = _ := hlisted.action
      have haction' : row.action = .update ∨ row.action = .delete := haction
      rw [Bool.eq_false_iff.mpr hnone] at hdecide
      cases hblank : row.cells.isBlank <;> rw [hblank] at hdecide <;>
        simp [hdecide, OverrideAction.decide] at haction'
    obtain ⟨id, hid⟩ := Option.isSome_iff_exists.mp hgiven
    obtain ⟨x, -, o, ho, hoid, -⟩ := hl.exists_owned hrow (herrors row hrow) hid
    exact ⟨id, hid, o, ho, hoid⟩

/-- **Rows without errors fit a well-formed table**, if their mode is a kind of subject. -/
theorem Site.Lists.rowsFit {s : Site} {kind : SubjectKind} {quiz : Quiz} {pinned : RowPasswords}
    {number : Nat} {records : List (List String)} {rows : List ImportRow}
    (hl : s.Lists (.ofQuiz (.kind kind) quiz pinned) number records rows)
    (herrors : ∀ row ∈ rows, row.errors.isEmpty = true)
    (hdistinct : (rows.filterMap ImportRow.knownSubject).Nodup) (hids : s.HasIds)
    (hwf : WellFormed s.overrides) :
    RowsFit (.given quiz.id) kind s.overrides rows := by
  -- a row without errors has a known subject, and with it the override of this subject
  have hfits (row : ImportRow) (hrow : row ∈ rows) :
      ∃ x, row.Fits (.given quiz.id) kind s.overrides x ∧ row.knownSubject = some x := by
    obtain ⟨record, password, -, hlisted⟩ := hl.listedRow hrow (herrors row hrow)
    obtain ⟨x, hx, hgiven⟩ := hids.subjectReading hlisted.resolved
    have hsubject : row.subjectId = some x := hlisted.subject.trans hx
    have hknown : row.knownSubject = some x := by
      rw [ImportRow.knownSubject_of_errorless (herrors row hrow), hsubject, given?_some hgiven]
    refine ⟨x, ⟨hsubject, hgiven, ?_, hlisted.action, hlisted.listed, ?_⟩, hknown⟩
    · rw [hlisted.existing, hsubject, existing?_eq, given?_some hgiven]
      rfl
    · have hrow :
          (s.rowOf (.ofQuiz (.kind kind) quiz pinned) record).fields.subjectId = some x := by
        rw [rowOf_subjectId, ← hlisted.cells, ← hlisted.subject, hsubject]
      rw [hlisted.data, RunSettings.draftData_values]
      unfold RunSettings.draftData RunSettings.ofQuiz
      simp only [Mode.lookupKind]
      unfold RunSettings.ofQuiz at hrow
      rw [hrow]
  refine ⟨fun row hrow => ?_, ?_, hl.applicable herrors hdistinct hwf.ids_nodup⟩
  · obtain ⟨x, hx, -⟩ := hfits row hrow
    exact ⟨x, hx⟩
  · -- all subjects are known, so that the known ones are the subjects of the rows
    have hknown : rows.filterMap (fun row => row.subjectId) =
        rows.filterMap ImportRow.knownSubject := by
      refine List.filterMap_congr fun row hrow => ?_
      obtain ⟨x, hx, hknown⟩ := hfits row hrow
      rw [hx.subject, hknown]
    have hsome : rows.map ImportRow.subjectId =
        (rows.filterMap fun row => row.subjectId).map some := by
      rw [List.map_filterMap]
      refine (List.filterMap_eq_map_iff_forall_eq_some.mpr fun row hrow => ?_).symm
      obtain ⟨x, hx, -⟩ := hfits row hrow
      rw [hx.subject]
      rfl
    rw [hsome, hknown]
    exact hdistinct.map fun _ _ h => Option.some.inj h

/-! ### Rows of a commit -/

namespace ImportService

variable {quizId importId : Field String} {s s₁ s₂ : Site} {quiz : Quiz} {batch : Batch}
  {run : ImportRun}

/-- The changes of a run that can be imported can be applied. -/
lemma Revalidated.applicable (h : Revalidated s quizId importId quiz batch run)
    (hcan : run.canImport = true) (hids : (s.overrides.map Override.id).Nodup) :
    Applicable (changesOf run) s.overrides := by
  obtain ⟨table, -, hpasses⟩ := h.passes
  obtain ⟨hlists, herrors, hdistinct⟩ := hpasses.rows_of_canImport hcan
  exact hlists.applicable herrors hdistinct hids

/-- The rows of a run that can be imported fit a well-formed table. -/
lemma Revalidated.rowsFit (h : Revalidated s quizId importId quiz batch run)
    (hcan : run.canImport = true) {kind : SubjectKind} (hmode : batch.mode = .kind kind)
    (hids : s.HasIds) (hwf : WellFormed s.overrides) :
    RowsFit (.given quiz.id) kind s.overrides run.rows := by
  obtain ⟨table, -, hpasses⟩ := h.passes
  obtain ⟨hlists, herrors, hdistinct⟩ := hpasses.rows_of_canImport hcan
  rw [hmode] at hlists
  exact hlists.rowsFit herrors hdistinct hids hwf

/-- **A transaction that returns** has made the changes of the run. -/
theorem commitChanges_returns_of_revalidate {total : CommitSummary}
    (hrevalidate : (revalidate quizId importId).Returns s (quiz, batch, run) s₁)
    (hcan : run.canImport = true) (hcommit : (commitChanges (changesOf run)).Returns s₁ total s₂)
    (hids : (s.overrides.map Override.id).Nodup) (hfresh : Fresh s.overrideCount s.overrides) :
    total = CommitSummary.zero.countAll (changesOf run) ∧ s.Advanced (changesOf run) s₂ := by
  obtain ⟨hrevalidated, hs₁⟩ := revalidate_returns hrevalidate
  have happ := hrevalidated.applicable hcan hids
  obtain ⟨hoverrides, hcount⟩ := Site.overrides_of_records hs₁
  obtain ⟨htotal, hadvanced⟩ :=
    commitChanges_returns (by rwa [hoverrides]) (by rwa [hoverrides, hcount]) hcommit
  exact ⟨htotal, hadvanced.congr (Site.congr_of_mask Site.tabled hs₁ fun _ => rfl) rfl⟩

/-- **A transaction that throws** leaves a first part of the changes of the run, which is none where
rows are taken back. -/
theorem commitChanges_throws_of_revalidate {e : CommitError}
    (hrevalidate : (revalidate quizId importId).Returns s (quiz, batch, run) s₁)
    (hcan : run.canImport = true) (hcommit : (commitChanges (changesOf run)).Throws s₁ e s₂)
    (hids : (s.overrides.map Override.id).Nodup) (hfresh : Fresh s.overrideCount s.overrides) :
    s₂.aside = s.aside ∧ ∃ done, done <+: changesOf run ∧
      s₂.overrides = applied s.overrideCount done s.overrides ∧
      s.overrideCount + inserts done ≤ s₂.overrideCount := by
  obtain ⟨hrevalidated, hs₁⟩ := revalidate_returns hrevalidate
  have happ := hrevalidated.applicable hcan hids
  obtain ⟨hoverrides, hcount⟩ := Site.overrides_of_records hs₁
  have haside : s₁.aside = s.aside := Site.congr_of_mask Site.aside hs₁ fun _ => rfl
  have hthrows :=
    commitChanges_throws (by rwa [hoverrides]) (by rwa [hoverrides, hcount]) hcommit
  rwa [haside, hoverrides, hcount] at hthrows

/-- **A commit that returns** has made the changes of its run. -/
theorem commit_returns_applied {origin : RequestOrigin} {s' : Site} {total : CommitSummary}
    (hids : (s.overrides.map Override.id).Nodup) (hfresh : Fresh s.overrideCount s.overrides)
    (h : (commit quizId importId origin).Returns s total s') :
    ∃ quiz batch run s₁, (revalidate quizId importId).Returns s (quiz, batch, run) s₁ ∧
      run.canImport = true ∧ total = CommitSummary.zero.countAll (changesOf run) ∧
      s'.overrides = applied s.overrideCount (changesOf run) s.overrides := by
  obtain ⟨quiz, batch, run, s₁, s₂, s₃, hrevalidate, hcan, hcommit, hremove, hs'⟩ :=
    commit_returns h
  obtain ⟨htotal, hadvanced⟩ :=
    commitChanges_returns_of_revalidate hrevalidate hcan hcommit hids hfresh
  refine ⟨quiz, batch, run, s₁, hrevalidate, hcan, htotal, ?_⟩
  calc s'.overrides
      = s₃.overrides := Site.congr_of_mask Site.overrides hs' fun _ => rfl
    _ = s₂.overrides := congrArg (·.overrides) ((Batches.remove_sheds _).returns hremove).unbatched
    _ = _ := hadvanced.overrides

/-- **Without faults a run without errors is committed.** -/
theorem commit_quiet_applied (origin : RequestOrigin)
    (hrevalidate : (revalidate quizId importId).Returns s (quiz, batch, run) s₁)
    (hs₁ : s₁.faults = []) (hcan : run.canImport = true)
    (hids : (s.overrides.map Override.id).Nodup) (hfresh : Fresh s.overrideCount s.overrides) :
    ∃ s', (commit quizId importId origin).Returns s
        (CommitSummary.zero.countAll (changesOf run)) s' ∧
      s'.overrides = applied s.overrideCount (changesOf run) s.overrides := by
  obtain ⟨hrevalidated, hrecords⟩ := revalidate_returns hrevalidate
  obtain ⟨hoverrides, hcount⟩ := Site.overrides_of_records hrecords
  have happ := hrevalidated.applicable hcan hids
  obtain ⟨total₁, s₂, hchanges, hs₂⟩ :
      ∃ total s₂, (commitChanges (changesOf run)).Returns s₁ total s₂ ∧ s₂.faults = s₁.faults :=
    commitChanges_calm (by rwa [hoverrides]) (by rwa [hoverrides, hcount]) (Site.calm_of_quiet hs₁)
  obtain ⟨total, s', hcommit⟩ :=
    commit_quiet origin hrevalidate hcan ⟨total₁, s₂, hchanges, hs₂.trans hs₁⟩
  obtain ⟨_, _, run', _, hrevalidate', -, rfl, happlied⟩ :=
    commit_returns_applied hids hfresh hcommit
  obtain ⟨-, -, rfl, -⟩ := revalidate_unique hrevalidate hrevalidate'
  exact ⟨s', hcommit, happlied⟩

end ImportService

end QuizOverrides
