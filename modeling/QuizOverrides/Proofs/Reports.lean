import QuizOverrides.Proofs.Blindness
import QuizOverrides.Proofs.CommitOutcome

set_option autoImplicit false

/-!
# What requests report

Only previews and commits report anything, and they do so in one place, after all else has been
done. What comes before leaves the audit trail alone. Where no fault waits for the saving of
reports, the report is the one row that the request adds.

## Main definitions

* `QuizOverrides.Site.Lenient` — no fault waits for reports or for the removal of batches.
* `QuizOverrides.AuditRow.Records` — a row records an action on an import.
* `QuizOverrides.Site.AddsRow` — a row has been added to the audit trail.

## Main results

* `QuizOverrides.trail_veil`, `QuizOverrides.lenient_veil` — what all operations of requests keep.
* `QuizOverrides.ImportService.preview_reports` — previews that return.
* `QuizOverrides.ImportService.preview_throws_audit` — previews that throw.
* `QuizOverrides.ImportService.commit_reports` — commits that return.
* `QuizOverrides.ImportService.commit_reports_failure` — commits whose changes fail.
* `QuizOverrides.ImportService.commit_throws_audit` — commits that throw for other reasons.
-/

namespace QuizOverrides

open QuizOverrides.Action

/-! ### What is kept -/

/-- **A fault that reports and batches need not fear**: it waits neither for the saving of a report
nor for the removal of a batch. -/
def ScheduledFault.Lenient (f : ScheduledFault) : Prop :=
  ¬(f.table = .audit ∧ f.access = .save) ∧ ¬(f.table = .batches ∧ f.access = .delete)

/-- Whether a fault is lenient can be decided. -/
instance (f : ScheduledFault) : Decidable f.Lenient :=
  inferInstanceAs (Decidable (_ ∧ _))

/-- **No fault waits for the saving of reports or for the removal of batches.** -/
def Site.Lenient (s : Site) : Prop := ∀ f ∈ s.faults, f.Lenient

namespace Site.Lenient

variable {s s' : Site}

/-- Faults only go. -/
lemma of_wears (hs : s.Lenient) (h : s.Wears s') : s'.Lenient :=
  h.forall_aim (P := fun aim => ¬(aim.1 = .audit ∧ aim.2.1 = .save) ∧
    ¬(aim.1 = .batches ∧ aim.2.1 = .delete)) hs

/-- The next report is saved. -/
lemma strike_report (hs : s.Lenient) : strike .audit .save s.faults = (none, s.faults) :=
  strike_eq_of_forall fun f hf => (hs f hf).1

/-- The next removal of a batch succeeds. -/
lemma strike_removal (hs : s.Lenient) : strike .batches .delete s.faults = (none, s.faults) :=
  strike_eq_of_forall fun f hf => (hs f hf).2

end Site.Lenient

/-- No operation of a request changes the audit trail, apart from reports. -/
lemma trail_veil (trail : List AuditRow) (quizId : Field String) :
    Veil (Kept fun s => s.audit = trail) quizId :=
  .of_invariant (fun _ _ _ _ h => h) (fun _ _ h => h) (fun _ _ h => h) (fun _ h => h)
    (fun _ _ h => h) (fun _ _ h => h) quizId

/-- A commit of changes reports nothing. -/
lemma trail_commitChanges (trail : List AuditRow) (changes : List RowChange) :
    Blind (Kept fun s => s.audit = trail) (commitChanges changes).run :=
  .of_keeps fun s hs => ((commitChanges_frames_unwritten changes).comp Site.audit s).trans hs

/-- An access adds no fault. -/
lemma access_wears (table : Table) (kind : Access) (s : Site) :
    s.Wears (s.accessed table kind) := by
  have hworn := worn_strikes [(table, kind)] s.faults
  rwa [strikes_singleton] at hworn

/-- No operation of a request schedules a fault. -/
lemma lenient_veil (quizId : Field String) : Veil (Kept Site.Lenient) quizId :=
  .of_invariant (fun table kind _ s hs => hs.of_wears (access_wears table kind s)) (fun _ _ h => h)
    (fun _ _ h => h) (fun _ h => h) (fun _ _ h => h) (fun _ _ h => h) quizId

/-- A report leaves the faults lenient. -/
lemma lenient_reports : BlindReports (Kept Site.Lenient) := by
  refine fun entry => .of_keeps fun s hs => ?_
  have haccessed := hs.of_wears (access_wears .audit .save s)
  unfold Audit.report
  rw [runOn_bind, runOn_access]
  rcases (strike .audit .save s.faults).1 with _ | e <;> exact haccessed

/-- A commit of changes adds no fault. -/
lemma commitChanges_wears (changes : List RowChange) : Wears (commitChanges changes).run := by
  refine .run_bind (fun s => ?_) fun total =>
    .run_bind (.of_frames fun _ => rfl) fun _ => .of_frames (.pure _)
  have hbegun : s.Wears s.begun :=
    access_wears .transactions .begin { s with transactions := s.transactions + 1 }
  have hwork := applyChanges_wears changes .zero s.begun
  rw [Overrides.runOn_transaction_begun]
  rcases (strike .transactions .begin s.faults).1 with _ | e
  · rcases hrun : runOn (applyChanges changes .zero).run s.begun with ⟨e | total, s'⟩ <;>
      rw [hrun] at hwork
    · have hback : (s'.rolledBack s.begun).faults = s'.faults := by
        unfold Site.rolledBack
        cases s'.rollback <;> rfl
      exact hbegun.trans (hwork.trans (Site.Wears.of_faults hback))
    · exact hbegun.trans hwork
  · exact hbegun

/-- A commit of changes leaves the faults lenient. -/
lemma lenient_commitChanges (changes : List RowChange) :
    Blind (Kept Site.Lenient) (commitChanges changes).run :=
  .of_keeps fun s hs => hs.of_wears (commitChanges_wears changes s)

/-! ### Reports -/

/-- **The row records an action** on an import. -/
structure AuditRow.Records (row : AuditRow) (action importId : String) : Prop where
  action : row.entry.action = some (.text action)
  importId : row.metadata.lookup "importId" = some (.text importId)

/-- **One row has been added** to the audit trail, and it satisfies `P`. -/
def Site.AddsRow (s s' : Site) (P : AuditRow → Prop) : Prop :=
  ∃ row, s'.audit = s.audit ++ [row] ∧ P row

/-- **A report that meets no fault** is saved, as the one row that has been added since the audit
trail was that of `s`. -/
lemma Site.Lenient.addsRow {s t : Site} (ht : t.Lenient) (haudit : t.audit = s.audit)
    (entry : AuditEntry) {P : AuditRow → Prop} (hP : ∀ instant, P ⟨entry, instant⟩) :
    s.AddsRow (runOn (Audit.report entry) t).2 P := by
  refine ⟨⟨entry, t.clock.instant⟩, ?_, hP _⟩
  unfold Audit.report
  rw [runOn_bind, runOn_access, ht.strike_report, ← haudit]
  rfl

namespace ImportService

variable {s s' : Site}

/-- **A preview that returns** reports the import that it offers. -/
lemma preview_reports {quizId : Field String} {bytes : ByteArray} {form : ImportForm}
    {origin : RequestOrigin} {p : Preview} (hs : s.Lenient)
    (h : (preview quizId bytes form origin).Returns s p s') :
    s.AddsRow s' fun row => row.Records "OVERRIDES_PREVIEWED" p.importId := by
  obtain ⟨⟨quiz, content, run⟩, s₁, hexamine, h⟩ := returns_bind.mp h
  obtain ⟨id, s₂, hsave, h⟩ := returns_bind.mp h
  obtain ⟨_, s₃, hreport, h⟩ := returns_bind.mp h
  obtain ⟨rfl, rfl⟩ := returns_pure.mp h
  have hquiz := given_of_quiz? (examine_returns hexamine).quiz
  -- up to its own report a preview keeps both the trail and the schedule of faults
  have haudit : s₂.audit = s.audit := by
    have hfirst := ((trail_veil s.audit quizId).examine bytes form).keeps_of_returns hexamine rfl
    exact ((trail_veil s.audit quizId).save _ _ _ _ _ hquiz).keeps_of_returns
      (returns_mapError.mp hsave) hfirst
  have hlenient : s₂.Lenient := by
    have hfirst := ((lenient_veil quizId).examine bytes form).keeps_of_returns hexamine hs
    exact ((lenient_veil quizId).save _ _ _ _ _ hquiz).keeps_of_returns
      (returns_mapError.mp hsave) hfirst
  have hrow := hlenient.addsRow haudit
    { action := some (.text "OVERRIDES_PREVIEWED")
      component := some (.text component)
      level := some (.text "info")
      entityId := some (.text quiz.id)
      entityType := some (.text "Quiz")
      metadata := some (.record
        [("importId", .text id), ("mode", form.mode.payload),
          ("canImport", .bool run.canImport),
          ("summary", (PreviewSummary.ofRows run.rows).payload)])
      ipAddress := origin.ipAddress
      userAgent := origin.userAgent }
    (P := fun row => row.Records "OVERRIDES_PREVIEWED" id) fun _ => ⟨rfl, by
      simp [AuditRow.metadata, Payload.spread, Payload.members, reservedMetadata]⟩
  rwa [returns_lift.mp hreport] at hrow

/-- **A preview that throws** has reported nothing. -/
lemma preview_throws_audit {quizId : Field String} {bytes : ByteArray} {form : ImportForm}
    {origin : RequestOrigin} {e : Refusal} (h : (preview quizId bytes form origin).Throws s e s') :
    s'.audit = s.audit := by
  have hexamines := (trail_veil s.audit quizId).examine bytes form
  rcases throws_bind.mp h with hexamine | ⟨⟨quiz, content, run⟩, s₁, hexamine, h⟩
  · exact hexamines.keeps_of_throws hexamine rfl
  · have hfirst := hexamines.keeps_of_returns hexamine rfl
    have hquiz := given_of_quiz? (examine_returns hexamine).quiz
    rcases throws_bind.mp h with hsave | ⟨_, _, -, h⟩
    · obtain ⟨_, hsave, -⟩ := throws_mapError.mp hsave
      exact ((trail_veil s.audit quizId).save _ _ _ _ _ hquiz).keeps_of_throws hsave hfirst
    · rcases throws_bind.mp h with h | ⟨_, _, -, h⟩
      · exact absurd h throws_lift
      · exact absurd h throws_pure

variable {quizId importId : Field String} {origin : RequestOrigin}

/-- **A commit that returns** reports the import with its counts. -/
lemma commit_reports {total : CommitSummary} (hs : s.Lenient)
    (h : (commit quizId importId origin).Returns s total s') :
    ∃ quiz batch run s₁, (revalidate quizId importId).Returns s (quiz, batch, run) s₁ ∧
      s.AddsRow s' fun row =>
        row.Records "OVERRIDES_IMPORTED" batch.id ∧ row.entry.newValues = some total.payload := by
  obtain ⟨quiz, batch, run, s₁, s₂, s₃, hrevalidate, hcan, hcommit, hremove, -⟩ := commit_returns h
  have hrun := runOn_commit_of_revalidate origin hrevalidate hcan
  rw [show runOn (commitChanges (changesOf run)).run s₁ = _ from hcommit] at hrun
  simp only [show runOn (Batches.remove batch.id).run s₂ = _ from hremove] at hrun
  obtain ⟨-, rfl⟩ := h.unique hrun
  have hkept {I : Site → Prop} (V : Veil (Kept I) quizId)
      (hchanges : Blind (Kept I) (commitChanges (changesOf run)).run) (hs : I s) : I s₃ :=
    (V.remove _).keeps_of_returns hremove (hchanges.keeps_of_returns hcommit
      ((V.revalidate importId).keeps_of_returns hrevalidate hs))
  have haudit := hkept (trail_veil s.audit quizId) (trail_commitChanges _ _) rfl
  have hlenient := hkept (lenient_veil quizId) (lenient_commitChanges _) hs
  refine ⟨quiz, batch, run, s₁, hrevalidate, hlenient.addsRow haudit _ fun _ => ⟨⟨rfl, ?_⟩, rfl⟩⟩
  simp [importedReport, AuditRow.metadata, Payload.spread, Payload.members, reservedMetadata]

/-- **A commit whose changes fail** reports the failure. -/
lemma commit_reports_failure {e : CommitError} (hs : s.Lenient)
    (h : (commit quizId importId origin).Throws s (.notImported e) s') :
    ∃ batch ∈ s.batches, batch.NamedBy quizId importId ∧ s.AddsRow s' fun row =>
      row.Records "OVERRIDE_IMPORT_FAILED" batch.id ∧
        row.entry.errorMessage = some (.text e.message) := by
  cases commit_throws h with
  | revalidation hrevalidate =>
    rcases revalidate_throws hrevalidate with hsearch | ⟨-, -, hnot, -⟩
    · cases hsearch
    · exact absurd rfl (hnot e)
  | @changes quiz batch run e' s₁ s₂ _ hrevalidate hcan hcommit hs' =>
    obtain ⟨hmem, hnamed, -⟩ := revalidate_namedBy hrevalidate
    have hrun := runOn_commit_of_revalidate origin hrevalidate hcan
    rw [show runOn (commitChanges (changesOf run)).run s₁ = _ from hcommit] at hrun
    obtain ⟨line, hthrows⟩ := hrun
    obtain ⟨-, rfl⟩ := h.unique hthrows
    have hkept {I : Site → Prop} (V : Veil (Kept I) quizId)
        (hchanges : Blind (Kept I) (commitChanges (changesOf run)).run) (hs : I s) : I s₂ :=
      hchanges.keeps_of_throws hcommit
        ((V.revalidate importId).keeps_of_returns hrevalidate hs)
    have hlenient : Site.Lenient { s₂ with logs := s₂.logs ++ [line] } :=
      hkept (lenient_veil quizId) (lenient_commitChanges _) hs
    have haudit := hkept (trail_veil s.audit quizId) (trail_commitChanges _ _) rfl
    refine ⟨batch, hmem, hnamed, hlenient.addsRow haudit _ fun _ => ⟨⟨rfl, ?_⟩, rfl⟩⟩
    rw [notImportedReport, AuditRow.metadata]
    rfl

/-- **Any other commit that throws** reports nothing. -/
lemma commit_throws_audit {e : Refusal} (h : (commit quizId importId origin).Throws s e s')
    (he : ∀ reason, e ≠ .notImported reason) : s'.audit = s.audit := by
  have V := trail_veil s.audit quizId
  cases commit_throws h with
  | revalidation hrevalidate => exact (V.revalidate importId).keeps_of_throws hrevalidate rfl
  | errors hrevalidate _ => exact (V.revalidate importId).keeps_of_returns hrevalidate rfl
  | changes => exact absurd rfl (he _)
  | removal hrevalidate _ hcommit hremove =>
    exact (V.remove _).keeps_of_throws hremove ((trail_commitChanges _ _).keeps_of_returns hcommit
      ((V.revalidate importId).keeps_of_returns hrevalidate rfl))

/-- Discards report nothing. -/
lemma discard_audit (quizId importId : Field String) (s : Site) :
    (runOn (discard quizId importId).run s).2.audit = s.audit :=
  ((trail_veil s.audit quizId).discard importId).keeps rfl

/-- Templates report nothing. -/
lemma template_audit (quizId : Field String) (mode : Mode) (s : Site) :
    (runOn (template quizId mode).run s).2.audit = s.audit :=
  ((trail_veil s.audit quizId).template mode).keeps rfl

end ImportService

end QuizOverrides
