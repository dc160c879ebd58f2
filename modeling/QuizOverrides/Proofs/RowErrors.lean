import QuizOverrides.Proofs.Sessions

set_option autoImplicit false

/-!
# Errors of records

The rows of a run show what the validation of its records has found. Only rows can hinder a commit,
so an error counts as far as its record has a row. A blank record whose subject cannot be resolved
has none: nothing is known of an override, and the record is skipped before its error is looked at.

## Main definitions

* `QuizOverrides.FieldErrors.Within` — errors that are kept when duplicates are marked.
* `QuizOverrides.Site.ErrorsListed` — the errors of records are those of the listed rows, but for
  blank records.

## Main results

* `QuizOverrides.Site.Passes.errorsListed` — so they are in every run.
* `QuizOverrides.ImportService.errors_of_records` — which errors hinder an import and a commit.
* `QuizOverrides.ImportService.exists_commit_with_error` — an error that does not.
-/

namespace QuizOverrides

open QuizOverrides.Action

/-! ### Errors of one record -/

/-- **Errors that are kept**: all errors of `e` are errors of `e'`, which may have another one,
about a subject that is all right in `e`. -/
structure FieldErrors.Within (e e' : FieldErrors) : Prop where
  subject : e.subject.isSome = true → e'.subject = e.subject
  others : e' = { e with subject := e'.subject }

/-- **Nothing is wrong but the subject.** -/
def FieldErrors.OnlySubject (e : FieldErrors) : Prop :=
  ∃ error, e = { subject := some error }

/-- Errors are within themselves. -/
lemma FieldErrors.Within.refl (e : FieldErrors) : e.Within e := ⟨fun _ => rfl, rfl⟩

/-- Where errors are kept, no errors come from none only. -/
lemma FieldErrors.Within.isEmpty {e e' : FieldErrors} (h : e.Within e') (he : e'.isEmpty = true) :
    e.isEmpty = true := by
  have hsubject : e.subject = none := by
    rcases hsome : e.subject with _ | error
    · rfl
    · have hkept := h.subject (by rw [hsome]; rfl)
      rw [subject_of_isEmpty he, hsome] at hkept
      exact absurd hkept (by simp)
  rw [h.others] at he
  unfold FieldErrors.isEmpty at he ⊢
  rw [hsubject]
  simp only [Bool.and_eq_true] at he ⊢
  exact ⟨⟨⟨⟨⟨⟨rfl, he.1.1.1.1.1.2⟩, he.1.1.1.1.2⟩, he.1.1.1.2⟩, he.1.1.2⟩, he.1.2⟩, he.2⟩

/-- Marking duplicates keeps the errors of every row. -/
lemma exists_markFrom_within (seen : List (String × Nat)) {rows : List ImportRow} {row : ImportRow}
    (hrow : row ∈ rows) :
    ∃ row' ∈ markFrom seen rows, row'.number = row.number ∧ row.errors.Within row'.errors := by
  induction rows generalizing seen with
  | nil => simp at hrow
  | cons first rest ih =>
    rcases List.mem_cons.mp hrow with rfl | hrow
    · unfold markFrom
      split
      · exact ⟨row, List.mem_cons_self, rfl, .refl _⟩
      · rename_i subject hknown
        split
        · refine ⟨_, List.mem_cons_self, rfl, fun hsome => ?_, rfl⟩
          -- a row with an error about its subject is not marked
          unfold ImportRow.knownSubject at hknown
          rw [if_pos hsome] at hknown
          exact absurd hknown (by simp)
        · exact ⟨row, List.mem_cons_self, rfl, .refl _⟩
    · have hlater (seen : List (String × Nat)) (r : ImportRow) :
          ∃ row' ∈ r :: markFrom seen rest, row'.number = row.number ∧
            row.errors.Within row'.errors := by
        obtain ⟨row', hrow', h⟩ := ih seen hrow
        exact ⟨row', List.mem_cons_of_mem _ hrow', h⟩
      unfold markFrom
      split
      · exact hlater _ _
      · split <;> exact hlater _ _

/-- Nothing can be wrong with blank cells but their subject. -/
lemma errors_assembleRow_of_blank {c : Cells} (h : c.isBlank = true) (subject : SubjectReading) :
    (assembleRow (readCells c) subject).errors = { subject := subject.error } := by
  simp only [Cells.isBlank, Bool.and_eq_true, Bool.or_eq_true, beq_iff_eq] at h
  obtain ⟨⟨⟨⟨⟨hopen, hclose⟩, hlimit⟩, hattempts⟩, hpassword⟩, hgenerate⟩ := h
  have hread : readGenerate c.generate = .good false := by
    unfold readGenerate
    rw [if_neg (by rcases hgenerate with h | h <;> rw [h] <;> decide), if_pos hgenerate]
  simp only [assembleRow, readCells, hopen, hclose, hlimit, hattempts, hpassword, hread]
  rfl

/-! ### Errors of a run -/

/-- **The errors of records are those of the listed rows**, but for blank records: with these only
the subject can be wrong, and if it is they have no row. -/
structure Site.ErrorsListed (s : Site) (st : RunSettings) (records : List (List String))
    (rows : List ImportRow) : Prop where
  listed : ∀ (i : Nat) (record : List String), records[i]? = some record →
    (s.rowOf st record).errors.isEmpty = false → (Cells.ofRecord record).isBlank = false →
    ∃ row ∈ rows, row.number = i + 1 ∧ (s.rowOf st record).errors.Within row.errors
  dropped : ∀ (i : Nat) (record : List String), records[i]? = some record →
    (s.rowOf st record).errors.isEmpty = false → (Cells.ofRecord record).isBlank = true →
    (s.rowOf st record).errors.OnlySubject ∧ ∀ row ∈ rows, row.number ≠ i + 1

/-- A blank record with an error is about no subject. -/
lemma Site.onlySubject_of_blank {s : Site} {st : RunSettings} {record : List String}
    (h : (s.rowOf st record).errors.isEmpty = false)
    (hblank : (Cells.ofRecord record).isBlank = true) :
    (s.rowOf st record).errors.OnlySubject ∧ s.actionOf st record = .skip := by
  have herrors : (s.rowOf st record).errors = { subject := _ } :=
    errors_assembleRow_of_blank hblank
      (s.subjectReading st.mode.lookupKind st.quiz.courseId (.ofRecord record))
  rcases hsubject : (s.subjectReading st.mode.lookupKind st.quiz.courseId
    (.ofRecord record)).error with _ | error
  · rw [herrors, hsubject] at h
    exact absurd h (by decide)
  · rw [hsubject] at herrors
    refine ⟨⟨error, herrors⟩, ?_⟩
    unfold actionOf ownedBy ValidatedRow.owner
    rw [hblank, herrors]
    rfl

/-- **In every run** the errors of records are those of the listed rows, but for blank records. -/
theorem Site.Passes.errorsListed {s : Site} {table : Csv.Table} {mode : Mode} {quiz : Quiz}
    {pinned : RowPasswords} {run : ImportRun} (h : s.Passes table mode quiz pinned run) :
    s.ErrorsListed (.ofQuiz mode quiz pinned) table.records run.rows := by
  obtain ⟨rows, hlists, hrows⟩ := h.listed
  refine ⟨fun i record hrecord _ hblank => ?_, fun i record hrecord herror hblank => ?_⟩
  · obtain ⟨row, hrow, password, hnumber, -, hlisting⟩ :=
      hlists.exists_row hrecord (actionOf_of_not_blank hblank)
    have herrors : row.errors = (s.rowOf (.ofQuiz mode quiz pinned) record).errors := by
      generalize row.number = n at hlisting
      obtain ⟨-, rfl⟩ := listing_eq_some.mp hlisting
      rfl
    obtain ⟨row', hrow', hnumber', hwithin⟩ := exists_markFrom_within [] hrow
    rw [← herrors, hrows]
    exact ⟨row', hrow', by omega, hwithin⟩
  · obtain ⟨honly, haction⟩ := onlySubject_of_blank herror hblank
    refine ⟨honly, fun row hrow hnumber => ?_⟩
    -- the row would be that of the record, and the record is skipped
    have hmem : i + 1 ∈ rows.map ImportRow.number := by
      rw [← markFrom_map ImportRow.number (fun _ _ => rfl) [] rows, ← hnumber]
      rw [hrows] at hrow
      exact List.mem_map_of_mem hrow
    obtain ⟨row', hrow', hnumber'⟩ := List.mem_map.mp hmem
    obtain ⟨record', password, ⟨-, hrecord'⟩, -, hlisting⟩ := hlists.exists_record hrow'
    rw [hnumber', show i + 1 - 0 - 1 = i by omega, hrecord] at hrecord'
    obtain rfl := Option.some.inj hrecord'
    exact (listing_eq_some.mp hlisting).1 haction

/-- **What a run that can be imported has found**: no errors, but for blank records. -/
lemma Site.ErrorsListed.of_canImport {s : Site} {st : RunSettings} {records : List (List String)}
    {run : ImportRun} (h : s.ErrorsListed st records run.rows) (hcan : run.canImport = true)
    {record : List String} (hrecord : record ∈ records) :
    (s.rowOf st record).errors.isEmpty = true ∨
      (Cells.ofRecord record).isBlank = true ∧ (s.rowOf st record).errors.OnlySubject := by
  obtain ⟨i, hi⟩ := List.mem_iff_getElem?.mp hrecord
  rcases herror : (s.rowOf st record).errors.isEmpty with _ | _
  · refine .inr ?_
    rcases hblank : (Cells.ofRecord record).isBlank with _ | _
    · obtain ⟨row, hrow, -, hwithin⟩ := h.listed i record hi herror hblank
      have hempty := List.all_eq_true.mp (Bool.and_eq_true_iff.mp hcan).2 row hrow
      rw [hwithin.isEmpty hempty] at herror
      exact absurd herror (by decide)
    · exact ⟨rfl, (h.dropped i record hi herror hblank).1⟩
  · exact .inl rfl

namespace ImportService

/-- **Which errors hinder an import and a commit.** Over a table whose header is accepted a run is
returned unless storage fails. Every record with errors has a row with these errors, unless the
record is blank and its only error is about the subject; but for such records all records of a run
that can be imported are without errors. A commit whose run finds an error in a record that is not
blank is refused, and the refusal tells the error.

**Proof sketch.** A record that is not blank is never skipped, so it has a row, and marking
duplicates takes no error away. A blank record has no cell that could be wrong but those that name
its subject; with a wrong subject no override is looked for, and the record is skipped. -/
theorem errors_of_records (s : Site) :
    (∀ (table : Csv.Table) (mode : Mode) (quiz : Quiz) (pinned : RowPasswords),
      mode.Accepts table.columns →
      (s.faults = [] → ∃ run s', (runTable table mode quiz pinned).Returns s run s') ∧
      ∀ run s', (runTable table mode quiz pinned).Returns s run s' →
        s.ErrorsListed (.ofQuiz mode quiz pinned) table.records run.rows ∧
        (run.canImport = true → ∀ record ∈ table.records,
          (s.rowOf (.ofQuiz mode quiz pinned) record).errors.isEmpty = true ∨
            (Cells.ofRecord record).isBlank = true ∧
              (s.rowOf (.ofQuiz mode quiz pinned) record).errors.OnlySubject)) ∧
    ∀ (quizId importId : Field String) (origin : RequestOrigin) (s₁ : Site) (quiz : Quiz)
      (batch : Batch) (run : ImportRun) (csv : Csv.Table) (i : Nat) (record : List String),
      (revalidate quizId importId).Returns s (quiz, batch, run) s₁ →
      Csv.Table.ofChoice batch.content batch.delimiter = .ok csv → csv.records[i]? = some record →
      (s.rowOf (.ofQuiz batch.mode quiz batch.passwords) record).errors.isEmpty = false →
      (Cells.ofRecord record).isBlank = false →
      (commit quizId importId origin).Throws s (.invalidRows batch.mode (invalidRows run)) s₁ ∧
        s₁.records = s.records ∧ ∃ e, (i + 1, e) ∈ invalidRows run ∧
          (s.rowOf (.ofQuiz batch.mode quiz batch.passwords) record).errors.Within e := by
  refine ⟨fun table mode quiz pinned haccepted => ⟨fun hs => ?_, fun run s' hrun => ?_⟩,
    fun quizId importId origin s₁ quiz batch run csv i record hrevalidate hcsv hrecord herror
      hblank => ?_⟩
  · obtain ⟨run, s', hrun, -⟩ := runTable_quiet quiz pinned haccepted hs
    exact ⟨run, s', hrun⟩
  · have hlisted := (runTable_returns hrun).errorsListed
    exact ⟨hlisted, fun hcan record hrecord => hlisted.of_canImport hcan hrecord⟩
  · obtain ⟨hrevalidated, hs₁⟩ := revalidate_returns hrevalidate
    obtain ⟨csv', hcsv', hpasses⟩ := hrevalidated.passes
    obtain rfl : csv' = csv := Except.ok.inj (hcsv'.symm.trans hcsv)
    obtain ⟨row, hrow, hnumber, hwithin⟩ :=
      hpasses.errorsListed.listed i record hrecord herror hblank
    have hinvalid : row.errors.isEmpty = false := by
      refine Bool.eq_false_iff.mpr fun hempty => ?_
      rw [hwithin.isEmpty hempty] at herror
      exact absurd herror (by decide)
    have hcan : run.canImport = false := by
      refine Bool.eq_false_iff.mpr fun hcan => ?_
      have hempty := List.all_eq_true.mp (Bool.and_eq_true_iff.mp hcan).2 row hrow
      rw [hinvalid] at hempty
      exact absurd hempty (by decide)
    refine ⟨commit_refused origin hrevalidate hcan, hs₁, row.errors, ?_, hwithin⟩
    refine List.mem_map.mpr ⟨row, List.mem_filter.mpr ⟨hrow, by rw [hinvalid]; rfl⟩, ?_⟩
    rw [hnumber]

/-- The small site after its upload, and after the second user has been removed. -/
def removedUserSite : Site :=
  (runOn (runSession [smallUpload, .change (.removeUser (.given "u-2"))]) smallSite).2

/-- The commit of the small upload, once the user of its second record has been removed. -/
theorem errors_of_records_removedUser : ∃ quiz batch run s₁ csv record,
    (revalidate smallQuiz firstBatch).Returns removedUserSite (quiz, batch, run) s₁ ∧
    Csv.Table.ofChoice batch.content batch.delimiter = .ok csv ∧ csv.records[1]? = some record ∧
    (removedUserSite.rowOf (.ofQuiz batch.mode quiz batch.passwords) record).errors.isEmpty =
      false ∧
    (Cells.ofRecord record).isBlank = false ∧
    (commit smallQuiz firstBatch ⟨none, none⟩).Throws removedUserSite
      (.invalidRows batch.mode (invalidRows run)) s₁ ∧
    s₁.records = removedUserSite.records ∧ ∃ e, (2, e) ∈ invalidRows run ∧
      (removedUserSite.rowOf (.ofQuiz batch.mode quiz batch.passwords) record).errors.Within e := by
  have hrun : (match (runOn (revalidate smallQuiz firstBatch).run removedUserSite).1 with
      | .error _ => false
      | .ok (quiz, batch, _) =>
        match Csv.Table.ofChoice batch.content batch.delimiter with
        | .error _ => false
        | .ok csv =>
          csv.records[1]?.any fun record =>
            !(removedUserSite.rowOf (.ofQuiz batch.mode quiz batch.passwords) record).errors.isEmpty
              && !(Cells.ofRecord record).isBlank) = true := by
    decide +kernel
  rcases hresult : runOn (revalidate smallQuiz firstBatch).run removedUserSite with
    ⟨e | ⟨quiz, batch, run⟩, s₁⟩
  · simp [hresult] at hrun
  · simp only [hresult] at hrun
    rcases hcsv : Csv.Table.ofChoice batch.content batch.delimiter with e | csv
    · simp [hcsv] at hrun
    · simp only [hcsv, Option.any_eq_true, Bool.and_eq_true, Bool.not_eq_true'] at hrun
      obtain ⟨record, hrecord, herror, hblank⟩ := hrun
      exact ⟨quiz, batch, run, s₁, csv, record, hresult, hcsv, hrecord, herror, hblank,
        (errors_of_records removedUserSite).2 smallQuiz firstBatch ⟨none, none⟩ s₁ quiz batch run
          csv 1 record hresult hcsv hrecord herror hblank⟩

/-- The preview of a file that deletes the override of the first user and inserts one for the
second. -/
def deletingUpload : Event :=
  .request (.preview smallQuiz (some ⟨.given "text/csv",
    ("userid,useridnumber,username,timeopen,timeclose,timelimit,attempts,password,generate\n" ++
      ",,ann\n,,bob,,,60").toUTF8⟩) smallForm ⟨none, none⟩)

/-- The small site after this upload, and after the first user has been removed. -/
def removedOwnerSite : Site :=
  (runOn (runSession [deletingUpload, .change (.removeUser (.given "u-1"))]) smallSite).2

/-- **A commit may return although a record has an error**: its deletion is left out, and the
override stays. -/
theorem exists_commit_with_error : ∃ s : Site, s.Reachable ∧
    ∃ quizId importId origin total s' quiz batch run s₁ csv record o,
      (revalidate quizId importId).Returns s (quiz, batch, run) s₁ ∧
      Csv.Table.ofChoice batch.content batch.delimiter = .ok csv ∧ record ∈ csv.records ∧
      (s.rowOf (.ofQuiz batch.mode quiz batch.passwords) record).errors.isEmpty = false ∧
      run.canImport = true ∧ (∀ row ∈ run.rows, row.cells ≠ .ofRecord record) ∧
      (commit quizId importId origin).Returns s total s' ∧ total.deleted = 0 ∧
      o ∈ s.overrides ∧ o ∈ s'.overrides ∧ o.data.userId = some "u-1" := by
  have hreachable : removedOwnerSite.Reachable := by
    refine ⟨smallSite, _, rfl, fun e he => ?_, rfl⟩
    rcases List.mem_cons.mp he with rfl | he
    · exact ⟨.user, rfl⟩
    · obtain rfl := List.mem_singleton.mp he
      trivial
  -- both requests are evaluated once, and what is claimed is read off their results
  have hrun : (match (runOn (revalidate smallQuiz firstBatch).run removedOwnerSite).1 with
      | .error _ => false
      | .ok (quiz, batch, run) =>
        match Csv.Table.ofChoice batch.content batch.delimiter with
        | .error _ => false
        | .ok csv =>
          run.canImport && csv.records.any fun record =>
            !(removedOwnerSite.rowOf (.ofQuiz batch.mode quiz batch.passwords)
                record).errors.isEmpty
              && run.rows.all fun row => decide (row.cells ≠ .ofRecord record)) = true ∧
      (match runOn (commit smallQuiz firstBatch ⟨none, none⟩).run removedOwnerSite with
      | (.error _, _) => false
      | (.ok total, s') => total.deleted == 0 && removedOwnerSite.overrides.any fun o =>
          s'.overrides.contains o && o.data.userId == some "u-1") = true := by
    decide +kernel
  obtain ⟨hrevalidate, hcommit⟩ := hrun
  rcases hresult : runOn (revalidate smallQuiz firstBatch).run removedOwnerSite with
    ⟨e | ⟨quiz, batch, run⟩, s₁⟩
  · simp [hresult] at hrevalidate
  rcases hreturn : runOn (commit smallQuiz firstBatch ⟨none, none⟩).run removedOwnerSite with
    ⟨e | total, s'⟩
  · simp [hreturn] at hcommit
  simp only [hresult] at hrevalidate
  rcases hcsv : Csv.Table.ofChoice batch.content batch.delimiter with e | csv
  · simp [hcsv] at hrevalidate
  simp only [hcsv, Bool.and_eq_true, List.any_eq_true, Bool.not_eq_true', List.all_eq_true,
    decide_eq_true_eq] at hrevalidate
  obtain ⟨hcan, record, hrecord, herror, hrows⟩ := hrevalidate
  simp only [hreturn, Bool.and_eq_true, List.any_eq_true, beq_iff_eq,
    List.contains_iff_mem] at hcommit
  obtain ⟨hdeleted, o, ho, ho', huser⟩ := hcommit
  exact ⟨removedOwnerSite, hreachable, smallQuiz, firstBatch, ⟨none, none⟩, total, s', quiz, batch,
    run, s₁, csv, record, o, hresult, hcsv, hrecord, herror, hcan, hrows, hreturn, hdeleted, ho,
    ho', huser⟩

end ImportService

end QuizOverrides
