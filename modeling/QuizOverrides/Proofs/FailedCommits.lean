import QuizOverrides.Proofs.Sessions

set_option autoImplicit false

/-!
# Failed commits

A commit writes overrides in a transaction and removes its batch afterwards. Whatever makes it throw
before the end of the transaction leaves the table as it was. The removal of the batch comes too
late for that: where it fails, the commit throws and all of its changes stay.

## Main definitions

* `QuizOverrides.ImportService.RemovalFails` — a fault waits for the removal of the batch.

## Main results

* `QuizOverrides.ImportService.RemovalFails.overrides_eq` — the changes that stay are all of them.
* `QuizOverrides.ImportService.overrides_of_commit_throws` — what a commit that throws leaves.
-/

namespace QuizOverrides

open QuizOverrides.Action

namespace ImportService

/-- **A fault waits for the removal of the batch**: the changes of the batch are committed, and the
table is `table` when the fault strikes. -/
def RemovalFails (quizId importId : Field String) (s : Site) (table : List Override) : Prop :=
  ∃ quiz batch run total s₁ s₂ e,
    (revalidate quizId importId).Returns s (quiz, batch, run) s₁ ∧ run.canImport = true ∧
    (commitChanges (changesOf run)).Returns s₁ total s₂ ∧
    (strike .batches .delete s₂.faults).1 = some e ∧ s₂.overrides = table

/-- Where the revalidation has come to a run, it is this run whose changes are committed. -/
lemma RemovalFails.of_revalidate {quizId importId : Field String} {s s₁ : Site}
    {table : List Override} {quiz : Quiz} {batch : Batch} {run : ImportRun}
    (h : RemovalFails quizId importId s table)
    (hrevalidate : (revalidate quizId importId).Returns s (quiz, batch, run) s₁) :
    run.canImport = true ∧ ∃ total s₂, (commitChanges (changesOf run)).Returns s₁ total s₂ ∧
      s₂.overrides = table := by
  obtain ⟨_, _, _, total, _, s₂, _, hreturns, hcan, hcommit, -, htable⟩ := h
  obtain ⟨-, -, rfl, rfl⟩ := revalidate_unique hrevalidate hreturns
  exact ⟨hcan, total, s₂, hcommit, htable⟩

/-- **The changes that stay** are all changes of the run, if the identifiers of overrides are
different and those to be generated are free. -/
theorem RemovalFails.overrides_eq {quizId importId : Field String} {s : Site}
    {table : List Override} (h : RemovalFails quizId importId s table)
    (hids : (s.overrides.map Override.id).Nodup) (hfresh : Fresh s.overrideCount s.overrides) :
    ∃ quiz batch run s₁, (revalidate quizId importId).Returns s (quiz, batch, run) s₁ ∧
      table = applied s.overrideCount (changesOf run) s.overrides := by
  obtain ⟨quiz, batch, run, total, s₁, s₂, e, hrevalidate, hcan, hcommit, -, rfl⟩ := h
  have hadvanced :=
    (commitChanges_returns_of_revalidate hrevalidate hcan hcommit hids hfresh).2
  exact ⟨quiz, batch, run, s₁, hrevalidate, hadvanced.overrides⟩

/-- Where a fault waits for the removal of the batch, this is what stops the commit. -/
lemma RemovalFails.of_throws {quizId importId : Field String} {origin : RequestOrigin}
    {s s' : Site} {e : Refusal} {table : List Override}
    (h : RemovalFails quizId importId s table)
    (hthrows : (commit quizId importId origin).Throws s e s') :
    ∃ quiz batch run total s₁ s₂, (revalidate quizId importId).Returns s (quiz, batch, run) s₁ ∧
      run.canImport = true ∧ (commitChanges (changesOf run)).Returns s₁ total s₂ ∧
      s₂.overrides = table ∧ s'.still = s₂.still := by
  cases commit_throws hthrows with
  | revalidation hrevalidate =>
    obtain ⟨_, _, _, _, _, _, _, hreturns, -⟩ := h
    exact absurd hrevalidate hreturns.not_throws
  | errors hrevalidate hcan =>
    have hcan' := (h.of_revalidate hrevalidate).1
    rw [hcan] at hcan'
    exact absurd hcan' (by decide)
  | changes hrevalidate _ hcommit _ =>
    obtain ⟨-, _, _, hreturns, -⟩ := h.of_revalidate hrevalidate
    exact absurd hcommit hreturns.not_throws
  | removal hrevalidate hcan hcommit hremove =>
    obtain ⟨-, _, _, hreturns, rfl⟩ := h.of_revalidate hrevalidate
    obtain ⟨-, rfl⟩ := hcommit.unique hreturns
    exact ⟨_, _, _, _, _, _, hrevalidate, hcan, hcommit, rfl, (Batches.remove_throws hremove).2⟩

/-- Where rows are taken back, a commit that throws leaves the overrides as they were, or it is the
removal of the batch that has failed. -/
lemma overrides_eq_or_removalFails {quizId importId : Field String} {origin : RequestOrigin}
    {s s' : Site} {e : Refusal} (hrows : s.rollback = .rows)
    (h : (commit quizId importId origin).Throws s e s') :
    s'.overrides = s.overrides ∨ RemovalFails quizId importId s s'.overrides := by
  cases commit_throws h with
  | revalidation hrevalidate =>
    exact .inl (congrArg (·.overrides) ((revalidate_sheds _ _).throws hrevalidate).unbatched)
  | errors hrevalidate _ =>
    exact .inl (Site.congr_of_mask Site.overrides (revalidate_returns hrevalidate).2 fun _ => rfl)
  | changes hrevalidate _ hcommit hs' =>
    have hs₁ := (revalidate_returns hrevalidate).2
    have hrollback := Site.congr_of_mask Site.rollback hs₁ fun _ => rfl
    refine .inl ?_
    calc s'.overrides
        = _ := Site.congr_of_mask Site.overrides hs' fun _ => rfl
      _ = _ := commitChanges_throws_of_rows (hrollback.trans hrows) hcommit
      _ = s.overrides := Site.congr_of_mask Site.overrides hs₁ fun _ => rfl
  | removal hrevalidate hcan hcommit hremove =>
    obtain ⟨hstrike, hs'⟩ := Batches.remove_throws hremove
    exact .inr ⟨_, _, _, _, _, _, _, hrevalidate, hcan, hcommit, hstrike,
      (congrArg (·.overrides) hs').symm⟩

/-- **What a commit that throws leaves.** Where storage takes the rows of a failed transaction back,
the overrides are as they were, unless the removal of the batch is what failed. Then the overrides
are those of the committed table, and the batch is still there.

**Proof sketch.** A commit is stopped in one of four places. The revalidation writes no override; a
transaction that throws returns to the rows that it began with; the removal fails after the end of
the transaction, which nothing takes back. -/
theorem overrides_of_commit_throws {quizId importId : Field String} {origin : RequestOrigin}
    {s s' : Site} {e : Refusal} (hrows : s.rollback = .rows)
    (h : (commit quizId importId origin).Throws s e s') :
    (∀ table, RemovalFails quizId importId s table →
      s'.overrides = table ∧ s'.batches = s.batches) ∧
    ((¬∃ table, RemovalFails quizId importId s table) → s'.overrides = s.overrides) := by
  refine ⟨fun table hfails => ?_, fun hnone =>
    (overrides_eq_or_removalFails hrows h).resolve_right fun hfails => hnone ⟨_, hfails⟩⟩
  obtain ⟨quiz, batch, run, total, s₁, s₂, hrevalidate, -, hcommit, rfl, hs'⟩ :=
    hfails.of_throws h
  refine ⟨congrArg (·.overrides) hs', ?_⟩
  calc s'.batches
      = s₂.batches := congrArg (·.batches) hs'
    _ = s₁.batches := congrArg (·.batches) ((commitChanges_frames _).returns hcommit)
    _ = s.batches :=
      Site.congr_of_mask Site.batches (revalidate_returns hrevalidate).2 fun _ => rfl

/-! ### A commit that fails too late -/

/-- The small site after an upload, where the next deletion of a batch is going to fail. -/
def lateFaultSite : Site :=
  (runOn (runSession [smallUpload,
    .change (.schedule ⟨.batches, .delete, 1, .error "connection lost"⟩)]) smallSite).2

/-- The site of the late fault can be reached. -/
lemma lateFaultSite_reachable : lateFaultSite.Reachable := by
  refine ⟨smallSite, _, rfl, fun e he => ?_, rfl⟩
  rcases List.mem_cons.mp he with rfl | he
  · exact smallUpload_typed
  · obtain rfl := List.mem_singleton.mp he
    trivial

/-- There the commit throws, with rows written. -/
lemma lateFaultSite_throws : lateFaultSite.rollback = .rows ∧
    ∃ e s', (commit smallQuiz firstBatch ⟨none, none⟩).Throws lateFaultSite e s' ∧
      s'.overrides ≠ lateFaultSite.overrides := by
  have hrun : lateFaultSite.rollback = .rows ∧
      (runOn (commit smallQuiz firstBatch ⟨none, none⟩).run lateFaultSite).1.isOk = false ∧
      (runOn (commit smallQuiz firstBatch ⟨none, none⟩).run lateFaultSite).2.overrides ≠
        lateFaultSite.overrides := by
    decide +kernel
  obtain ⟨hrows, hthrows, hwritten⟩ := hrun
  obtain ⟨e, h⟩ := exists_throws_of_isOk hthrows
  exact ⟨hrows, e, _, h, hwritten⟩

/-- What is left after the removal of a batch has failed. -/
theorem overrides_of_lateFault : ∃ e s',
    (commit smallQuiz firstBatch ⟨none, none⟩).Throws lateFaultSite e s' ∧
    (∀ table, RemovalFails smallQuiz firstBatch lateFaultSite table →
      s'.overrides = table ∧ s'.batches = lateFaultSite.batches) ∧
    ((¬∃ table, RemovalFails smallQuiz firstBatch lateFaultSite table) →
      s'.overrides = lateFaultSite.overrides) := by
  obtain ⟨hrows, e, s', h, -⟩ := lateFaultSite_throws
  exact ⟨e, s', h, overrides_of_commit_throws hrows h⟩

/-- **A commit may throw after it has written.** -/
theorem exists_commit_throws_after_writing : ∃ s : Site, s.Reachable ∧ s.rollback = .rows ∧
    ∃ quizId importId origin e s', (commit quizId importId origin).Throws s e s' ∧
      s'.overrides ≠ s.overrides := by
  obtain ⟨hrows, e, s', h, hwritten⟩ := lateFaultSite_throws
  exact ⟨lateFaultSite, lateFaultSite_reachable, hrows, smallQuiz, firstBatch, _, e, s', h,
    hwritten⟩

end ImportService

end QuizOverrides
