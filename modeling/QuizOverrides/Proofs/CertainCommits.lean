import QuizOverrides.Proofs.CommitOutcome
import QuizOverrides.Proofs.Refusals
import QuizOverrides.Proofs.Rows

set_option autoImplicit false

/-!
# Imports that cannot fail

A run that has been processed and has no errors has looked up every override that it is going to
write, at the very site that it is imported at. No two of its rows are about the same override, so
each row still finds its own after the rows before it have been applied. Only storage can make such
an import fail.

## Main results

* `QuizOverrides.Site.Calm.commitChanges_returns` — what can be applied after a look-up is
  committed.
* `QuizOverrides.import_of_canImport` — an import without errors is made, and no commit answers that
  its rows could not be written.
-/

namespace QuizOverrides

open QuizOverrides.Action

/-- Where no fault has been added, none is waiting that was not. -/
lemma Site.Calm.of_wears {s s' : Site} (hs : s.Calm) (h : s.Wears s') : s'.Calm := by
  intro f hf
  exact h.forall_aim
    (P := fun aim => aim.1 ≠ .overrides ∧ ¬(aim.1 = .transactions ∧ aim.2.1 = .begin)) hs f hf

/-- **Changes that could be applied before a look-up** are committed after it. -/
lemma Site.Calm.commitChanges_returns {s s₁ : Site} {changes : List RowChange} (hs : s.Calm)
    (hrecords : s₁.records = s.records) (hwears : s.Wears s₁)
    (happ : Applicable changes s.overrides) (hfresh : Fresh s.overrideCount s.overrides) :
    ∃ s₂, (commitChanges changes).Returns s₁ (CommitSummary.zero.countAll changes) s₂ := by
  obtain ⟨hoverrides, hcount⟩ := overrides_of_records hrecords
  rw [← hoverrides] at happ hfresh
  rw [← hcount] at hfresh
  obtain ⟨total, s₂, hcommit, -⟩ := commitChanges_calm happ hfresh (hs.of_wears hwears)
  obtain ⟨rfl, -⟩ := QuizOverrides.commitChanges_returns happ hfresh hcommit
  exact ⟨s₂, hcommit⟩

/-- A run over a table changes no record of the site. -/
lemma ImportRun.process_frames (run : ImportRun) : Frames Site.records run.process :=
  process_frames_of logLine_frames (scanRecords_frames _ _ _)

/-- **What has been validated is imported.** Let the identifiers of the overrides be distinct, those
to be generated be free, and no fault wait for the overrides or for the beginning of a transaction.
Then a run that has been processed and has no errors is imported: none of its rows fails, neither
for want of an override nor because of storage. And whatever has happened to the site since a
preview, its commit is not refused because its rows could not be written.

**Proof sketch.** A row that updates or deletes has the identifier that the table showed for its
subject. The subjects of the rows are different, and an override has one subject in the search for
it, so the identifiers are different as well. By induction over the rows, what comes before a row
neither removes its override nor takes its identifier. -/
theorem import_of_canImport {s : Site} (hids : (s.overrides.map Override.id).Nodup)
    (hfresh : Fresh s.overrideCount s.overrides) (hcalm : s.Calm) :
    (∀ (run run' : ImportRun) (s₁ : Site), runOn run.processIn s = ((.ok (.ok true), run'), s₁) →
      run'.canImport = true →
      s₁.opened.Takes (ImportService.changesOf run') ∧
      ∃ run'' s₂, runOn run'.commit s₁ = ((true, run''), s₂) ∧ run''.commitError = none ∧
        run''.summary = some (CommitSummary.zero.countAll (ImportService.changesOf run'))) ∧
    ∀ (quizId importId : Field String) (origin : RequestOrigin) (e : Refusal) (s' : Site),
      (ImportService.commit quizId importId origin).Throws s e s' →
      ∀ reason, e ≠ .notImported reason := by
  refine ⟨fun run run' s₁ hprocess hcan => ?_, fun quizId importId origin e s' hthrows => ?_⟩
  · obtain ⟨-, hprocess⟩ := ImportRun.processIn_accepts hprocess
    obtain ⟨hlists, herrors, hdistinct⟩ := ImportRun.rows_of_canImport hprocess hcan
    have hrecords := run.process_frames s
    have hwears := run.process_wears s
    rw [hprocess] at hrecords hwears
    obtain ⟨s₂, hcommit⟩ := hcalm.commitChanges_returns hrecords hwears
      (hlists.applicable herrors hdistinct hids) hfresh
    refine ⟨commitChanges_takes hcommit, ?_⟩
    obtain ⟨ok, run'', s₃, hrun, hresult⟩ := ImportService.runOn_commit hcan s₁
    rw [show runOn (commitChanges (ImportService.changesOf run')).run s₁ = _ from hcommit]
      at hresult
    obtain ⟨rfl, herror, hsummary, rfl⟩ := hresult
    exact ⟨run'', s₃, hrun, herror, hsummary⟩
  · intro reason heq
    subst heq
    cases ImportService.commit_throws hthrows with
    | revalidation hrevalidate =>
      -- no refusal before the changes is about a failed import
      rcases ImportService.revalidate_throws hrevalidate with hfailure | ⟨-, -, hnot, -⟩
      · cases hfailure
      · exact hnot reason rfl
    | @changes quiz batch run e s₁ s₂ _ hrevalidate hcan hcommit _ =>
      obtain ⟨hrevalidated, hrecords⟩ := ImportService.revalidate_returns hrevalidate
      have hwears := (ImportService.revalidate_wears quizId importId).returns hrevalidate
      obtain ⟨s₃, hreturns⟩ := hcalm.commitChanges_returns hrecords hwears
        (hrevalidated.applicable hcan hids) hfresh
      exact hreturns.not_throws hcommit

/-- The run of a computation of a pair. -/
lemma exists_runOn {α β : Type} (x : StateM Site (α × β)) (s : Site) :
    ∃ a b s', runOn x s = ((a, b), s') := ⟨_, _, _, rfl⟩

/-- The run over the small file. -/
def smallRun : ImportRun where
  settings := .ofQuiz (.kind .user)
    ⟨"00000000-0000-4000-8000-0000000000a1", "c-1", some "Quiz", none⟩ []
  table := ⟨header .user,
    [["", "", "ann", "", "", "60"], ["", "", "bob", "", "", "", "", "", "1"]]⟩

/-- The small file is imported at the small site, once it has been processed. -/
theorem import_of_canImport_smallRun : (smallSite.overrides.map Override.id).Nodup ∧
    Fresh smallSite.overrideCount smallSite.overrides ∧ smallSite.Calm ∧
    ∃ run' s₁, runOn smallRun.processIn smallSite = ((.ok (.ok true), run'), s₁) ∧
      run'.canImport = true ∧ run'.rows.length = 2 ∧
      s₁.opened.Takes (ImportService.changesOf run') ∧
      ∃ run'' s₂, runOn run'.commit s₁ = ((true, run''), s₂) ∧ run''.commitError = none ∧
        run''.summary = some (CommitSummary.zero.countAll (ImportService.changesOf run')) := by
  have hids : (smallSite.overrides.map Override.id).Nodup := smallSite_wellFormed.ids_nodup
  have hcalm : smallSite.Calm := Site.calm_of_quiet rfl
  have hfacts : (runOn smallRun.process smallSite).1.2.canImport = true ∧
      (runOn smallRun.process smallSite).1.2.rows.length = 2 := by
    decide +kernel
  have haccepted : (runOn smallRun.process smallSite).1.1 = .ok true :=
    (ImportRun.accepted_of_canImport hfacts.1).1
  obtain ⟨result, run', s₁, hprocess⟩ := exists_runOn smallRun.process smallSite
  rw [hprocess] at hfacts haccepted
  obtain ⟨hcan, hrows⟩ := hfacts
  obtain rfl : result = .ok true := haccepted
  have hprocessIn := ImportRun.runOn_processIn (Mode.headerFault?_kind _ _) hprocess
  exact ⟨hids, smallSite_fresh, hcalm, run', s₁, hprocessIn, hcan, hrows,
    (import_of_canImport hids smallSite_fresh hcalm).1 _ _ _ hprocessIn hcan⟩

end QuizOverrides
