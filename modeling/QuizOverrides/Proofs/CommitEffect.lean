import QuizOverrides.Proofs.Pinned
import QuizOverrides.Proofs.Values

set_option autoImplicit false

/-!
# The effect of a commit

A commit that returns has changed the table of overrides by the rows of its run, key by key. A
subject that a row inserts or updates has exactly one override, with the values of the row; a
subject that a row deletes has none; everything else is as it was.

## Main definitions

* `QuizOverrides.CommitEffect` — the effect on the table of overrides.

## Main results

* `QuizOverrides.ImportService.commit_effect` — commits have this effect, and their counts are those
  of the rows.
-/

namespace QuizOverrides

open QuizOverrides.Action

/-- **The effect of a commit** on the overrides of a site, where `rows` are the rows of the run over
the records of `csv`, and `table` is the table afterwards. -/
structure CommitEffect (s : Site) (quiz : Quiz) (kind : SubjectKind) (passwords : RowPasswords)
    (csv : Csv.Table) (rows : List ImportRow) (table : List Override) : Prop where
  /-- Every row is that of a record, and its cells name its subject. -/
  resolved : ∀ row ∈ rows, ∃ record x, csv.records[row.number - 1]? = some record ∧
    row.cells = .ofRecord record ∧ row.subjectId = some x ∧ x ≠ "" ∧
    (s.subjectReading kind (.given quiz.courseId) row.cells).id = some x ∧
    (s.subjectReading kind (.given quiz.courseId) row.cells).error = none
  /-- No two rows are about one subject. -/
  distinct : (rows.map ImportRow.subjectId).Nodup
  /-- Rows that ask for a password have the one that the preview has generated. -/
  pinned : ∀ row ∈ rows, row.cells.generate = Cells.generateYes →
    ∃ p, passwords.lookup row.number = some p
  /-- Inserts and updates are written. An override that was there keeps its identifier. -/
  written : ∀ row ∈ rows, row.action = .insert ∨ row.action = .update →
    ∀ x, row.subjectId = some x →
      ∃ id, table.filter (OverrideKey.owns ⟨.given quiz.id, kind, x⟩) =
          [⟨some id, .forSubject (.given quiz.id) kind (some x)
            (row.cells.written (passwords.lookup row.number))⟩] ∧
        ∀ o ∈ s.overrides, OverrideKey.owns ⟨.given quiz.id, kind, x⟩ o = true → o.id = some id
  /-- Deletions leave no override. -/
  deleted : ∀ row ∈ rows, row.action = .delete → ∀ x, row.subjectId = some x →
    table.filter (OverrideKey.owns ⟨.given quiz.id, kind, x⟩) = []
  /-- Subjects without a row keep what they have. -/
  untouched : ∀ x, (∀ row ∈ rows, row.subjectId ≠ some x) →
    table.filter (OverrideKey.owns ⟨.given quiz.id, kind, x⟩) =
      s.overrides.filter (OverrideKey.owns ⟨.given quiz.id, kind, x⟩)
  /-- So do other quizzes and the other kind of subject. -/
  others : table.filter (fun o => o.data.quizId != .given quiz.id || (o.data.subject kind).isNone) =
    s.overrides.filter fun o => o.data.quizId != .given quiz.id || (o.data.subject kind).isNone

/-! ### Counts -/

/-- The counts of a commit are those of its rows. -/
lemma CommitSummary.countAll_changes (summary : CommitSummary) (rows : List ImportRow) :
    summary.countAll (rows.map ImportRow.change) =
      ⟨summary.inserted + PreviewSummary.countAction .insert rows,
        summary.updated + PreviewSummary.countAction .update rows,
        summary.deleted + PreviewSummary.countAction .delete rows⟩ := by
  rw [countAll_eq]
  simp only [List.countP_map]
  rfl

/-! ### The commit -/

namespace ImportService

variable {quizId importId : Field String} {s : Site} {quiz : Quiz} {batch : Batch}
  {run : ImportRun} {kind : SubjectKind}

/-- **The changes of a revalidated run** have the effect of a commit. -/
theorem Revalidated.effect (h : Revalidated s quizId importId quiz batch run)
    (hcan : run.canImport = true) (hpinned : batch.Pinned) (hmode : batch.mode = .kind kind)
    (hids : s.HasIds) (hwf : WellFormed s.overrides) {csv : Csv.Table}
    (hcsv : Csv.Table.ofChoice batch.content batch.delimiter = .ok csv) (n : Nat) :
    CommitEffect s quiz kind batch.passwords csv run.rows
      (applied n (changesOf run) s.overrides) := by
  have hfit := h.rowsFit hcan hmode hids hwf
  -- what is written for a row, by its subject
  have hwritten (row : ImportRow) (hrow : row ∈ run.rows) (x : String)
      (hfits : row.Fits (.given quiz.id) kind s.overrides x) :
      row.draft.data = .forSubject (.given quiz.id) kind (some x)
        (row.cells.written (batch.passwords.lookup row.number)) := by
    obtain ⟨record, password, -, hlisted, hgenerate⟩ := h.listedRow hcan hpinned hcsv hrow
    rw [hfits.data, hlisted.values hgenerate]
    rfl
  have hsubject {row : ImportRow} {x x' : String}
      (hfits : row.Fits (.given quiz.id) kind s.overrides x') (hx : row.subjectId = some x) :
      row.Fits (.given quiz.id) kind s.overrides x := by
    obtain rfl : x' = x := Option.some.inj (hfits.subject.symm.trans hx)
    exact hfits
  refine ⟨fun row hrow => ?_, hfit.distinct, fun row hrow => ?_, fun row hrow haction x hx => ?_,
    fun row hrow haction x hx => ?_, fun x hx => ?_, ?_⟩
  · obtain ⟨record, password, hrecord, hlisted, -⟩ := h.listedRow hcan hpinned hcsv hrow
    obtain ⟨x, hfits⟩ := hfit.fits row hrow
    have hreading := hlisted.subject.symm.trans hfits.subject
    have hresolved := hlisted.resolved
    rw [hmode] at hreading hresolved
    exact ⟨record, x, hrecord, hlisted.cells, hfits.subject, hfits.given, hreading, hresolved⟩
  · obtain ⟨_, _, -, -, hgenerate⟩ := h.listedRow hcan hpinned hcsv hrow
    exact hgenerate
  · obtain ⟨x', hfits⟩ := hfit.fits row hrow
    have hfits := hsubject hfits hx
    rcases haction with hinsert | hupdate
    · obtain ⟨hnone, m, -, heq⟩ := filter_applied_insert hfit hwf hrow hfits hinsert n
      refine ⟨generatedId m, ?_, fun o ho howned => ?_⟩
      · rw [← hwritten row hrow x hfits]
        exact heq
      · have hmem := List.mem_filter.mpr ⟨ho, howned⟩
        rw [hnone] at hmem
        simp at hmem
    · obtain ⟨o, hone, heq⟩ := filter_applied_update hfit hwf hrow hfits hupdate n
      obtain ⟨ho, -⟩ := List.mem_filter.mp (hone ▸ List.mem_singleton_self o)
      obtain ⟨id, hid, -⟩ := hwf.id_given o ho
      refine ⟨id, ?_, fun o' ho' howned => ?_⟩
      · rw [← hwritten row hrow x hfits, ← hid]
        exact heq
      · have hmem := List.mem_filter.mpr ⟨ho', howned⟩
        rw [hone] at hmem
        rw [List.mem_singleton.mp hmem]
        exact hid
  · obtain ⟨x', hfits⟩ := hfit.fits row hrow
    obtain ⟨_, -, heq⟩ := filter_applied_delete hfit hwf hrow (hsubject hfits hx) haction n
    exact heq
  · refine hfit.filter_applied_of_not_mem hwf (fun row hrow x' hx' heq => ?_) n
    simp only [OverrideKey.mk.injEq, true_and] at heq
    exact hx row hrow (hx'.trans (congrArg some heq.symm))
  · refine filter_applied_of_untouched hfit hwf (fun row hrow x hx o _ howned => ?_) n
    obtain ⟨hquiz, hkind⟩ := OverrideKey.owns_iff.mp howned
    simp [hquiz, hkind]

/-- **The effect of a commit that returns**, at a reachable site whose table of overrides is
well-formed.

**Proof sketch.** The rows of the run have no errors and are about different subjects, so they fit
the table: each is about one key, and its change leaves all other keys alone. The batch has a
password for every row that asks for one, since a preview has kept it. -/
theorem commit_effect {origin : RequestOrigin} {s' : Site} {total : CommitSummary}
    (hs : s.Reachable) (hids : s.HasIds) (hwf : WellFormed s.overrides)
    (hfresh : Fresh s.overrideCount s.overrides)
    (h : (commit quizId importId origin).Returns s total s') :
    ∃ quiz batch run s₁ kind csv,
      (revalidate quizId importId).Returns s (quiz, batch, run) s₁ ∧ run.canImport = true ∧
      batch ∈ s.batches ∧ batch.quizId = quiz.id ∧ batch.mode = .kind kind ∧
      Csv.Table.ofChoice batch.content batch.delimiter = .ok csv ∧
      CommitEffect s quiz kind batch.passwords csv run.rows s'.overrides ∧
      total = ⟨PreviewSummary.countAction .insert run.rows,
        PreviewSummary.countAction .update run.rows,
        PreviewSummary.countAction .delete run.rows⟩ := by
  obtain ⟨quiz, batch, run, s₁, hrevalidate, hcan, htotal, hoverrides⟩ :=
    commit_returns_applied hwf.ids_nodup hfresh h
  obtain ⟨hrevalidated, -⟩ := revalidate_returns hrevalidate
  obtain ⟨id, -, hfound⟩ := hrevalidated.batch_found.found
  have hmem : batch ∈ s.batches := List.mem_of_find?_eq_some hfound
  have hquiz : batch.quizId = quiz.id := by
    have hholds := List.find?_some hfound
    simp only [Field.holds, Bool.and_eq_true, beq_iff_eq] at hholds
    exact hholds.2.symm
  have hpinned := hs.pinned batch hmem
  obtain ⟨kind, hmode⟩ := hpinned.mode
  obtain ⟨csv, hcsv, -⟩ := hrevalidated.passes
  refine ⟨quiz, batch, run, s₁, kind, csv, hrevalidate, hcan, hmem, hquiz, hmode, hcsv, ?_, ?_⟩
  · rw [hoverrides]
    exact hrevalidated.effect hcan hpinned hmode hids hwf hcsv _
  · rw [htotal, changesOf, CommitSummary.countAll_changes]
    simp [CommitSummary.zero]

/-- The effect of the commit of the small upload. -/
theorem commit_effect_smallUpload : uploadedSite.Reachable ∧ uploadedSite.HasIds ∧
    WellFormed uploadedSite.overrides ∧ Fresh uploadedSite.overrideCount uploadedSite.overrides ∧
    ∃ total s', (commit smallQuiz firstBatch ⟨none, none⟩).Returns uploadedSite total s' ∧
      ∃ quiz batch run s₁ kind csv,
        (revalidate smallQuiz firstBatch).Returns uploadedSite (quiz, batch, run) s₁ ∧
        run.canImport = true ∧ batch ∈ uploadedSite.batches ∧ batch.quizId = quiz.id ∧
        batch.mode = .kind kind ∧ Csv.Table.ofChoice batch.content batch.delimiter = .ok csv ∧
        CommitEffect uploadedSite quiz kind batch.passwords csv run.rows s'.overrides ∧
        total = ⟨PreviewSummary.countAction .insert run.rows,
          PreviewSummary.countAction .update run.rows,
          PreviewSummary.countAction .delete run.rows⟩ := by
  have hreturns : (runOn (commit smallQuiz firstBatch ⟨none, none⟩).run uploadedSite).1.isOk =
      true := by
    decide +kernel
  obtain ⟨total, h⟩ := exists_returns_of_isOk hreturns
  obtain ⟨-, -, hoverrides, hcount⟩ := uploadedSite_tables
  have hwf : WellFormed uploadedSite.overrides := by
    rw [hoverrides]
    exact smallSite_wellFormed
  have hfresh : Fresh uploadedSite.overrideCount uploadedSite.overrides := by
    rw [hoverrides, hcount]
    exact smallSite_fresh
  exact ⟨uploadedSite_reachable, uploadedSite_hasIds, hwf, hfresh, total, _, h,
    commit_effect uploadedSite_reachable uploadedSite_hasIds hwf hfresh h⟩

end ImportService

end QuizOverrides
