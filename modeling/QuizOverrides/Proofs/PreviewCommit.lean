import QuizOverrides.Proofs.CommitEffect

set_option autoImplicit false

/-!
# What is previewed is committed

A commit runs over the upload anew. Where the quiz, the users, the groups and the overrides of the
quiz are as they were for the preview, the rows of its run are those of the preview, since the text
of the upload and the passwords that have been generated are kept in the batch.

## Main definitions

* `QuizOverrides.RowsWritten` — rows have been written to a table.
* `QuizOverrides.Site.SameFor` — a site is as another one for the uploads to a quiz.

## Main results

* `QuizOverrides.Applicable.rowsWritten` — what applied rows have written.
* `QuizOverrides.eq_of_kept` — a batch does not change while it is kept.
* `QuizOverrides.ImportService.commit_of_preview` — the commit of a preview.
-/

namespace QuizOverrides

open QuizOverrides.Action

/-! ### Written rows -/

/-- **Rows have been written to a table**, and nothing else has been done to it. -/
structure RowsWritten (rows : List ImportRow) (table table' : List Override) : Prop where
  inserted : ∀ row ∈ rows, row.action = .insert →
    ∃ id, (∀ o ∈ table, o.id ≠ some id) ∧ ⟨some id, row.draft.data⟩ ∈ table'
  updated : ∀ row ∈ rows, row.action = .update → ∃ id, row.draft.id = some id ∧
    (∃ o ∈ table, o.id = some id) ∧ ∀ o, o ∈ table' ∧ o.id = some id ↔ o = ⟨some id, row.draft.data⟩
  deleted : ∀ row ∈ rows, row.action = .delete → ∃ id, row.draft.id = some id ∧
    (∃ o ∈ table, o.id = some id) ∧ ∀ o ∈ table', o.id ≠ some id
  kept : ∀ o ∈ table, (∀ row ∈ rows, row.action = .update ∨ row.action = .delete →
    row.draft.id ≠ o.id) → o ∈ table'
  only : ∀ o ∈ table', o ∈ table ∨ ∃ row ∈ rows, (row.action = .insert ∨ row.action = .update) ∧
    o.data = row.draft.data

/-- The change of a row is about the override that the row replaces or deletes. -/
lemma ImportRow.target_change_eq_some {row : ImportRow} {id : String} :
    row.change.target = some id ↔
      (row.action = .update ∨ row.action = .delete) ∧ row.draft.id? = some id := by
  have haction : row.change.action = row.action := rfl
  unfold RowChange.target
  rw [haction]
  rcases row.action with _ | _ | _ | _ <;> simp [change]

section

variable {rows : List ImportRow} {table : List Override} {row : ImportRow}

/-- The override that a row replaces or deletes. -/
lemma Applicable.exists_targets (happ : Applicable (rows.map ImportRow.change) table)
    (hrow : row ∈ rows) (haction : row.action = .update ∨ row.action = .delete) :
    ∃ id, row.draft.id = some id ∧ ∃ o ∈ table, o.id = some id ∧ row.change.targets o = true := by
  obtain ⟨id, hid, o, ho, hoid⟩ :=
    happ.present row.change (List.mem_map_of_mem hrow) haction
  have htarget : row.change.target = some id :=
    ImportRow.target_change_eq_some.mpr ⟨haction, hid⟩
  exact ⟨id, (Option.filter_eq_some_iff.mp hid).1, o, ho, hoid,
    RowChange.targets_iff.mpr ⟨id, htarget, hoid⟩⟩

/-- What all rows make of the override that one of them is about. -/
lemma Applicable.rewriteAll_row (happ : Applicable (rows.map ImportRow.change) table)
    (hrow : row ∈ rows) {o : Override} (htargets : row.change.targets o = true) :
    rewriteAll (rows.map ImportRow.change) o =
      if row.action = .delete then none else some ⟨o.id, row.draft.data⟩ := by
  rw [rewriteAll_of_targets happ.distinct (List.mem_map_of_mem hrow) htargets]
  unfold RowChange.rewrite
  rw [if_pos htargets]
  rfl

/-- **Rows whose changes can be applied** have been written after that. -/
theorem Applicable.rowsWritten {n : Nat} (happ : Applicable (rows.map ImportRow.change) table)
    (hfresh : Fresh n table) (hids : (table.map Override.id).Nodup) :
    RowsWritten rows table (applied n (rows.map ImportRow.change) table) := by
  refine ⟨fun row hrow haction => ?_, fun row hrow haction => ?_, fun row hrow haction => ?_,
    fun o ho hother => ?_, fun o ho => ?_⟩
  · -- an insert: its identifier is one that was free
    obtain ⟨o, ho, hdata⟩ := exists_mem_inserted (n := n) (List.mem_map_of_mem hrow)
      (show row.change.action = .insert from haction)
    obtain ⟨-, -, -, -, m, hm, -, hid⟩ := exists_of_mem_inserted ho
    refine ⟨generatedId m, hfresh m hm, mem_applied.mpr (.inr ?_)⟩
    rcases o with ⟨oid, data⟩
    obtain rfl : oid = some (generatedId m) := hid
    obtain rfl : data = row.draft.data := hdata
    exact ho
  · -- an update: identifiers stay different, so nothing else has the one of the override
    obtain ⟨id, hid, o, ho, hoid, htargets⟩ := happ.exists_targets hrow (.inl haction)
    have hnew : ⟨some id, row.draft.data⟩ ∈ applied n (rows.map ImportRow.change) table := by
      refine mem_applied.mpr (.inl ⟨o, ho, ?_⟩)
      rw [happ.rewriteAll_row hrow htargets, if_neg (by simp [haction]), hoid]
    refine ⟨id, hid, ⟨o, ho, hoid⟩, fun o' => ⟨fun ⟨ho', hoid'⟩ => ?_, ?_⟩⟩
    · exact List.inj_on_of_nodup_map (nodup_ids_applied _ hfresh hids) ho' hnew hoid'
    · rintro rfl
      exact ⟨hnew, rfl⟩
  · -- a deletion: the override is left out, and no insert takes its identifier
    obtain ⟨id, hid, o, ho, hoid, htargets⟩ := happ.exists_targets hrow (.inr haction)
    refine ⟨id, hid, ⟨o, ho, hoid⟩, fun o' ho' hoid' => ?_⟩
    rcases mem_applied.mp ho' with ⟨o₀, ho₀, hnew⟩ | hinserted
    · have hid₀ : o₀.id = some id := (id_of_rewriteAll hnew).symm.trans hoid'
      obtain rfl : o₀ = o := List.inj_on_of_nodup_map hids ho₀ ho (hid₀.trans hoid.symm)
      rw [happ.rewriteAll_row hrow htargets, if_pos haction] at hnew
      simp at hnew
    · obtain ⟨-, -, -, -, m, hm, -, hgenerated⟩ := exists_of_mem_inserted hinserted
      exact hfresh m hm o ho (hoid.trans (hoid'.symm.trans hgenerated))
  · refine mem_applied.mpr (.inl ⟨o, ho, rewriteAll_of_not_targets fun c hc => ?_⟩)
    obtain ⟨row, hrow, rfl⟩ := List.mem_map.mp hc
    refine Bool.eq_false_iff.mpr fun htargets => ?_
    obtain ⟨id, htarget, hoid⟩ := RowChange.targets_iff.mp htargets
    obtain ⟨haction, hid⟩ := ImportRow.target_change_eq_some.mp htarget
    exact hother row hrow haction ((Option.filter_eq_some_iff.mp hid).1.trans hoid.symm)
  · -- what is in the table has been there before, or a row has written it
    rcases mem_applied.mp ho with ⟨o₀, ho₀, hnew⟩ | hinserted
    · by_cases htargets : ∃ row ∈ rows, row.change.targets o₀ = true
      · obtain ⟨row, hrow, htargets⟩ := htargets
        obtain ⟨id, htarget, -⟩ := RowChange.targets_iff.mp htargets
        have haction := (ImportRow.target_change_eq_some.mp htarget).1
        rw [happ.rewriteAll_row hrow htargets] at hnew
        split_ifs at hnew with hdelete
        obtain rfl := Option.some.inj hnew
        exact .inr ⟨row, hrow, .inr (haction.resolve_right hdelete), rfl⟩
      · rw [rewriteAll_of_not_targets fun c hc => ?_] at hnew
        · exact .inl (Option.some.inj hnew ▸ ho₀)
        · obtain ⟨row, hrow, rfl⟩ := List.mem_map.mp hc
          exact Bool.eq_false_iff.mpr fun h => htargets ⟨row, hrow, h⟩
    · obtain ⟨c, hc, hinsert, hdata, -⟩ := exists_of_mem_inserted hinserted
      obtain ⟨row, hrow, rfl⟩ := List.mem_map.mp hc
      exact .inr ⟨row, hrow, .inl hinsert, hdata⟩

end

/-! ### Kept batches -/

/-- Generated identifiers of batches differ. -/
lemma Batches.generatedId_injective {m n : Nat} (h : generatedId m = generatedId n) : m = n := by
  have hvalue (k : Nat) : Nat.ofDigitChars 10 (Text.padded 12 k) 0 = k := by
    unfold Text.padded Text.digits
    rw [Nat.ofDigitChars_append, Nat.ofDigitChars_replicate_zero, Nat.mul_zero,
      Nat.ofDigitChars_ten_toDigits]
  have hpadded : Text.padded 12 m = Text.padded 12 n :=
    String.ofList_inj.mp ((String.append_right_inj _).mp h)
  rw [← hvalue m, hpadded, hvalue n]

/-- **Under the `n`-th identifier there is no batch but `batch`**, now and later. -/
def Site.OnlyKeeps (s : Site) (n : Nat) (batch : Batch) : Prop :=
  n ≤ s.batchCount ∧ ∀ b ∈ s.batches, b.id = Batches.generatedId n → b = batch

/-- An event puts no other batch under an identifier that has been generated. -/
lemma Event.Step.onlyKeeps {e : Event} {s s' : Site} (hstep : e.Step s s') {n : Nat} {batch : Batch}
    (h : s.OnlyKeeps n batch) : s'.OnlyKeeps n batch := by
  refine ⟨Nat.le_trans h.1 hstep.batchCount_le, fun b hb hid => ?_⟩
  rcases hstep.batches hb with hold | ⟨_, _, _, _, _, -, -, rfl⟩
  · exact h.2 b hold hid
  · have hcount : s.batchCount + 1 = n := Batches.generatedId_injective hid
    have := h.1
    omega

/-- A preview has put its own batch under its identifier. -/
lemma Site.onlyKeeps_withBatch {s s₁ : Site} {quizId content : String} {mode : Mode}
    {delimiter : Csv.DelimiterChoice} {passwords : RowPasswords}
    (h : s₁.records = (s.withBatch (s.newBatch quizId mode delimiter content passwords)).records) :
    s₁.OnlyKeeps (s.batchCount + 1) (s.newBatch quizId mode delimiter content passwords) := by
  have hbatches : s₁.batches = (s.withBatch _).batches := congrArg (·.batches) h
  have hcount : s₁.batchCount = s.batchCount + 1 := congrArg (·.batchCount) h
  refine ⟨Nat.le_of_eq hcount.symm, fun b hb hid => ?_⟩
  rw [hbatches] at hb
  exact eq_of_mem_putRow hb hid

/-- **A batch does not change while it is kept**: in a session after a preview, a batch under the
identifier of the preview is the one that the preview has kept. -/
theorem eq_of_kept {s s₁ : Site} {quizId content : String} {mode : Mode}
    {delimiter : Csv.DelimiterChoice} {passwords : RowPasswords}
    (h : s₁.records = (s.withBatch (s.newBatch quizId mode delimiter content passwords)).records)
    (events : List Event) {batch : Batch}
    (hbatch : batch ∈ (runOn (runSession events) s₁).2.batches)
    (hid : batch.id = Batches.generatedId (s.batchCount + 1)) :
    batch = s.newBatch quizId mode delimiter content passwords := by
  have hkeeps : (runOn (runSession events) s₁).2.OnlyKeeps _ _ :=
    runSession_keeps (fun _ _ _ _ h hstep => hstep.onlyKeeps h) (Site.onlyKeeps_withBatch h)
  exact hkeeps.2 batch hbatch hid

/-! ### Unchanged sites -/

/-- **The site `t` is as `s` for the uploads to a quiz**: the quiz, the users, the groups and the
overrides of the quiz are the same. -/
structure Site.SameFor (s t : Site) (quizId : Field String) : Prop where
  quiz : t.quiz? quizId = s.quiz? quizId
  users : t.users = s.users
  groups : t.groups = s.groups
  overrides : ∀ quiz, s.quiz? quizId = some quiz →
    (t.overrides.filter fun o => o.data.quizId == .given quiz.id) =
      s.overrides.filter fun o => o.data.quizId == .given quiz.id

/-- Where the same subjects are found, records are validated in the same way. -/
lemma Site.rowOf_of_subjects {s t : Site} (husers : t.users = s.users)
    (hgroups : t.groups = s.groups) (st : RunSettings) : t.rowOf st = s.rowOf st := by
  have hfound (s : Site) :
      s.rowOf st = ({ users := s.users, groups := s.groups } : Site).rowOf st := rfl
  rw [hfound t, hfound s, husers, hgroups]

namespace Site.SameFor

variable {s t : Site} {quizId : Field String}

/-- The same rows are read from a record. -/
lemma rowOf (h : s.SameFor t quizId) (st : RunSettings) : t.rowOf st = s.rowOf st :=
  rowOf_of_subjects h.users h.groups st

/-- The same overrides are found. -/
lemma ownedBy (h : s.SameFor t quizId) {mode : Mode} {quiz : Quiz} {pinned : RowPasswords}
    (hquiz : s.quiz? quizId = some quiz) :
    t.ownedBy (.ofQuiz mode quiz pinned) = s.ownedBy (.ofQuiz mode quiz pinned) := by
  have hfind (s : Site) (x : String) :
      s.overrides.find? (OverrideKey.owns ⟨.given quiz.id, mode.lookupKind, x⟩) =
        (s.overrides.filter fun o => o.data.quizId == .given quiz.id).find?
          (OverrideKey.owns ⟨.given quiz.id, mode.lookupKind, x⟩) := by
    rw [List.find?_filter]
    congr 1
    funext o
    rw [Bool.eq_iff_iff]
    simp [OverrideKey.owns]
  funext record
  unfold Site.ownedBy
  rw [h.rowOf, existing?_eq, existing?_eq]
  congr 1
  funext x
  have hsame := hfind t x
  rw [h.overrides quiz hquiz, ← hfind s x] at hsame
  exact congrArg (·.bind Override.id) hsame

end Site.SameFor

/-! ### Previews -/

/-- **A preview agrees with its rows**: no row is skipped, and the summary counts the rows. -/
structure Preview.Consistent (p : Preview) : Prop where
  skip : p.summary.skip = 0
  insert : p.summary.insert = PreviewSummary.countAction .insert p.rows
  update : p.summary.update = PreviewSummary.countAction .update p.rows
  delete : p.summary.delete = PreviewSummary.countAction .delete p.rows
  total : p.summary.insert + p.summary.update + p.summary.delete = p.rows.length
  invalid : p.summary.invalid = (p.rows.filter fun row => !row.errors.isEmpty).length
  canImport : p.canImport = true ↔ p.summary.invalid = 0
  numbers : p.rows.Pairwise fun row row' => row.number < row'.number

/-- The rows of a preview that have errors, as a refused commit tells them. -/
def Preview.invalidRows (p : Preview) : List (Nat × FieldErrors) :=
  (p.rows.filter fun row => !row.errors.isEmpty).map fun row => (row.number, row.errors)

/-- The rows that are not skipped are inserts, updates and deletions. -/
lemma PreviewSummary.countAction_add {rows : List ImportRow}
    (h : ∀ row ∈ rows, row.action ≠ .skip) :
    countAction .insert rows + countAction .update rows + countAction .delete rows =
      rows.length := by
  induction rows with
  | nil => rfl
  | cons row rest ih =>
    have hrow := h row List.mem_cons_self
    have ih := ih fun row' hrow' => h row' (List.mem_cons_of_mem _ hrow')
    unfold countAction at ih ⊢
    rcases haction : row.action with _ | _ | _ | _
    · simp [haction]; omega
    · simp [haction]; omega
    · simp [haction]; omega
    · exact absurd haction hrow

/-- Rows that are listed are not skipped. -/
lemma Site.Lists.action_ne_skip {s : Site} {st : RunSettings} {number : Nat}
    {records : List (List String)} {rows : List ImportRow} (h : s.Lists st number records rows)
    {row : ImportRow} (hrow : row ∈ rows) : row.action ≠ .skip := by
  obtain ⟨record, password, -, -, hlisting⟩ := h.exists_record hrow
  generalize row.number = n at hlisting
  obtain ⟨haction, rfl⟩ := listing_eq_some.mp hlisting
  exact haction

namespace ImportService

/-- The preview of a run agrees with its rows. -/
lemma Examined.consistent {s : Site} {quizId : Field String} {form : ImportForm} {quiz : Quiz}
    {content importId : String} {run : ImportRun} (h : Examined s quizId form quiz content run) :
    (⟨importId, form.mode, run.canImport, .ofRows run.rows, run.rows⟩ : Preview).Consistent := by
  obtain ⟨csv, -, hpasses⟩ := h.passes
  obtain ⟨rows, hlists, hrows⟩ := hpasses.listed
  have hskip : ∀ row ∈ run.rows, row.action ≠ .skip := by
    intro row hrow
    have hmem : row.action ∈ rows.map ImportRow.action := by
      rw [← markFrom_map ImportRow.action (fun _ _ => rfl) [] rows, ← markDuplicates, ← hrows]
      exact List.mem_map_of_mem hrow
    obtain ⟨row', hrow', haction⟩ := List.mem_map.mp hmem
    rw [← haction]
    exact hlists.action_ne_skip hrow'
  have hcan : run.canImport = true ↔ ∀ row ∈ run.rows, row.errors.isEmpty = true := by
    unfold ImportRun.canImport
    rw [hpasses.processed, Bool.true_and, List.all_eq_true]
  refine ⟨?_, rfl, rfl, rfl, PreviewSummary.countAction_add hskip, ?_, ?_, ?_⟩
  · exact List.countP_eq_zero.mpr fun row hrow => by simpa using hskip row hrow
  · exact List.countP_eq_length_filter
  · refine hcan.trans (Iff.trans ?_ List.countP_eq_zero.symm)
    exact forall₂_congr fun row _ => by simp
  · exact hpasses.sorted

/-- **The revalidation of a preview** comes to the rows of the preview. -/
theorem revalidate_of_preview {quizId : Field String} {form : ImportForm} {s s₁ t : Site}
    {quiz : Quiz} {content : String} {run : ImportRun} {events : List Event} {batch : Batch}
    (hexamined : Examined s quizId form quiz content run)
    (hs₁ : s₁.records = (s.withBatch
      (s.newBatch quiz.id form.mode form.delimiter content run.generatedPasswords)).records)
    (ht : (runOn (runSession events) s₁).2 = t) (hsame : s.SameFor t quizId)
    (hbatch : batch ∈ t.batches) (hid : batch.id = Batches.generatedId (s.batchCount + 1))
    (hissued : Uuid.isIssued (Batches.generatedId (s.batchCount + 1)) = true)
    (hfresh : Batches.isExpired t.options t.clock batch = false) (hfaults : t.faults = []) :
    ∃ run' t₁, batch.mode = form.mode ∧
      (revalidate quizId (.given (Batches.generatedId (s.batchCount + 1)))).Returns t
        (quiz, batch, run') t₁ ∧
      t₁.faults = [] ∧ run'.rows = run.rows ∧ run'.canImport = run.canImport := by
  have hkept (b : Batch) (hb : b ∈ t.batches)
      (hbid : b.id = Batches.generatedId (s.batchCount + 1)) : b = s.newBatch quiz.id form.mode
        form.delimiter content run.generatedPasswords := by
    rw [← ht] at hb
    exact eq_of_kept hs₁ events hb hbid
  obtain rfl := hkept batch hbatch hid
  obtain ⟨csv, hcsv, hpasses⟩ := hexamined.passes
  have hquiz : t.quiz? quizId = some quiz := hsame.quiz.trans hexamined.quiz
  -- the first batch that a search by its identifier finds is that of the preview
  have hfind : (t.batches.find? fun b => b.id == Batches.generatedId (s.batchCount + 1) &&
      (Field.given quiz.id).holds (some b.quizId)) = some (s.newBatch quiz.id form.mode
        form.delimiter content run.generatedPasswords) := by
    rcases hfound : t.batches.find? _ with _ | b
    · have hnone := List.find?_eq_none.mp hfound _ hbatch
      simp [Site.newBatch, Field.holds] at hnone
    · have hholds := List.find?_some hfound
      simp only [Bool.and_eq_true, beq_iff_eq] at hholds
      rw [hkept b (List.mem_of_find?_eq_some hfound) hholds.1]
  have hissued? : issuedId? (.given (Batches.generatedId (s.batchCount + 1))) =
      some (Batches.generatedId (s.batchCount + 1)) :=
    Option.filter_eq_some_iff.mpr ⟨rfl, hissued⟩
  obtain ⟨run', t₁, hrevalidate, ht₁⟩ :=
    revalidate_quiet hfaults hquiz ⟨⟨_, hissued?, hfind⟩, hfresh⟩ hcsv hpasses.accepted
  refine ⟨run', t₁, rfl, hrevalidate, ht₁, ?_⟩
  obtain ⟨csv', hcsv', hpasses'⟩ := (revalidate_returns hrevalidate).1.passes
  obtain rfl : csv' = csv := Except.ok.inj (hcsv'.symm.trans hcsv)
  have hrows : run'.rows = run.rows := hpasses.rows_eq_of_pinned (hsame.rowOf _)
    (hsame.ownedBy hexamined.quiz) hpasses'
  refine ⟨hrows, ?_⟩
  unfold ImportRun.canImport
  rw [hrows, hpasses.processed, hpasses'.processed]

/-- **A preview and its commit.** In a session after a preview, while its batch is kept and has not
expired, where the quiz, the users, the groups and the overrides of the quiz are as they were, and
storage does not fail: the commit returns if the preview can be imported, with the counts of the
preview, and writes the rows of the preview. Otherwise it is refused with the rows that have errors,
and nothing is written. Identifiers of overrides are those of a database: they are different, and
the next ones are free.

**Proof sketch.** The batch has the text of the upload and the passwords that were generated, and
batches do not change. Its run finds the same subjects and the same overrides, and hence lists the
same rows. Without errors their changes can be applied, and without faults they are. -/
theorem commit_of_preview {quizId : Field String} {bytes : ByteArray} {form : ImportForm}
    {origin : RequestOrigin} {s s₁ t : Site} {p : Preview} {events : List Event} {batch : Batch}
    (hpreview : (preview quizId bytes form origin).Returns s p s₁)
    (ht : (runOn (runSession events) s₁).2 = t) (hsame : s.SameFor t quizId)
    (hbatch : batch ∈ t.batches) (hid : batch.id = p.importId)
    (hissued : Uuid.isIssued p.importId = true)
    (hfresh : Batches.isExpired t.options t.clock batch = false) (hfaults : t.faults = [])
    (hids : (t.overrides.map Override.id).Nodup) (hfree : Fresh t.overrideCount t.overrides)
    (origin' : RequestOrigin) :
    p.Consistent ∧
    (p.canImport = true → ∃ t',
      (commit quizId (.given p.importId) origin').Returns t
        ⟨p.summary.insert, p.summary.update, p.summary.delete⟩ t' ∧
      t'.overrides = applied t.overrideCount (p.rows.map ImportRow.change) t.overrides ∧
      RowsWritten p.rows t.overrides t'.overrides) ∧
    (p.canImport = false → ∃ t',
      (commit quizId (.given p.importId) origin').Throws t (.invalidRows p.mode p.invalidRows) t' ∧
      t'.records = t.records ∧
      (Refusal.invalidRows p.mode p.invalidRows).thrown = .http ⟨.badRequest, .record
        [("message",
            .text "The import no longer validates; upload the file again to review the errors"),
          ("rows", invalidRowsPayload p.mode p.invalidRows)]⟩) := by
  obtain ⟨quiz, content, run, hexamined, rfl, hs₁⟩ := preview_returns hpreview
  obtain ⟨run', t₁, hmode, hrevalidate, ht₁, hrows, hcan⟩ :=
    revalidate_of_preview hexamined hs₁ ht hsame hbatch hid hissued hfresh hfaults
  obtain ⟨hrevalidated, hrecords⟩ := revalidate_returns hrevalidate
  refine ⟨hexamined.consistent, fun hcanImport => ?_, fun hcanImport => ?_⟩
  · have hcan' : run'.canImport = true := hcan.trans hcanImport
    have happ := hrevalidated.applicable hcan' hids
    obtain ⟨t', hcommit, happlied⟩ :=
      commit_quiet_applied origin' hrevalidate ht₁ hcan' hids hfree
    unfold changesOf at happ hcommit happlied
    rw [hrows] at happ hcommit happlied
    rw [CommitSummary.countAll_changes] at hcommit
    refine ⟨t', ?_, happlied, ?_⟩
    · simpa [CommitSummary.zero, PreviewSummary.ofRows] using hcommit
    · rw [happlied]
      exact happ.rowsWritten hfree hids
  · have hrefused := commit_refused origin' hrevalidate (hcan.trans hcanImport)
    unfold ImportService.invalidRows at hrefused
    rw [hmode, hrows] at hrefused
    exact ⟨t₁, hrefused, hrecords, rfl⟩

/-- The small site a second after the preview of the small file. -/
def previewedSite : Site :=
  (runOn (runSession [.change (.advance (some (.finite 1000)))])
    (runOn (preview smallQuiz smallFile smallForm ⟨none, none⟩).run smallSite).2).2

/-- The commit of the preview of the small file, a second later. -/
theorem commit_of_preview_smallFile : ∃ p s₁,
    (preview smallQuiz smallFile smallForm ⟨none, none⟩).Returns smallSite p s₁ ∧
    p.Consistent ∧ p.canImport = true ∧ ∃ t',
      (commit smallQuiz (.given p.importId) ⟨none, none⟩).Returns previewedSite
        ⟨p.summary.insert, p.summary.update, p.summary.delete⟩ t' ∧
      t'.overrides = applied previewedSite.overrideCount (p.rows.map ImportRow.change)
        previewedSite.overrides ∧
      RowsWritten p.rows previewedSite.overrides t'.overrides := by
  have hrun : (runOn (preview smallQuiz smallFile smallForm
      ⟨none, none⟩).run smallSite).1.toOption.map Preview.canImport = some true := by
    decide +kernel
  have hsite : previewedSite.users = smallSite.users ∧ previewedSite.groups = [] ∧
      previewedSite.quizzes = smallSite.quizzes ∧ previewedSite.overrides = smallSite.overrides ∧
      previewedSite.overrideCount = 0 ∧ previewedSite.faults = [] ∧
      (previewedSite.batches.any fun b => b.id == Batches.generatedId 1 &&
        !Batches.isExpired previewedSite.options previewedSite.clock b) = true := by
    decide +kernel
  obtain ⟨husers, hgroups, hquizzes, hoverrides, hcount, hfaults, hbatches⟩ := hsite
  obtain ⟨batch, hbatch, hkept⟩ := List.any_eq_true.mp hbatches
  simp only [Bool.and_eq_true, beq_iff_eq, Bool.not_eq_true'] at hkept
  rcases returns_or_throws (preview smallQuiz smallFile smallForm ⟨none, none⟩) smallSite with
    ⟨p, s₁, h⟩ | ⟨e, s₁, h⟩
  · rw [show runOn (preview smallQuiz smallFile smallForm ⟨none, none⟩).run smallSite = _ from h]
      at hrun
    have hcan : p.canImport = true := Option.some.inj hrun
    have himport : p.importId = Batches.generatedId 1 := by
      obtain ⟨quiz, content, run, -, rfl, -⟩ := preview_returns h
      rfl
    have ht : (runOn (runSession [.change (.advance (some (.finite 1000)))]) s₁).2 =
        previewedSite := by
      unfold previewedSite
      rw [show runOn (preview smallQuiz smallFile smallForm ⟨none, none⟩).run smallSite = _ from h]
    have hsame : smallSite.SameFor previewedSite smallQuiz := by
      refine ⟨?_, husers, hgroups, fun quiz _ => by rw [hoverrides]⟩
      unfold Site.quiz?
      rw [hquizzes]
    have hids : (previewedSite.overrides.map Override.id).Nodup := by
      rw [hoverrides]
      exact smallSite_wellFormed.ids_nodup
    have hfree : Fresh previewedSite.overrideCount previewedSite.overrides := by
      rw [hoverrides, hcount]
      exact smallSite_fresh
    obtain ⟨hconsistent, hcommit, -⟩ := commit_of_preview h ht hsame hbatch
      (hkept.1.trans himport.symm) (by rw [himport]; decide +kernel) hkept.2 hfaults hids hfree
      ⟨none, none⟩
    exact ⟨p, s₁, h, hconsistent, hcan, hcommit hcan⟩
  · rw [show runOn (preview smallQuiz smallFile smallForm ⟨none, none⟩).run smallSite = _ from h]
      at hrun
    exact absurd hrun (by simp [Except.toOption])

end ImportService

end QuizOverrides
