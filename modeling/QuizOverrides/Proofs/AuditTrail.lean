import QuizOverrides.Proofs.BatchLifecycle
import QuizOverrides.Proofs.FailedCommits
import QuizOverrides.Proofs.PreviewEffect

set_option autoImplicit false

/-!
# What the audit trail tells

In a session where reports are saved and batches are removed without a fault, the audit trail
mirrors what the steps have done: each preview that returns, each commit that returns and each
commit whose changes fail add one row to it, and nothing else adds any. The row of a commit has the
numbers of overrides that have been created, rewritten and removed.

## Main definitions

* `QuizOverrides.Tally` — counts are those of the overrides that rows have written.
* `QuizOverrides.Site.Imports` — an import has been carried out and reported.
* `QuizOverrides.Request.Trail` — what a request reports, by what it comes to.
* `QuizOverrides.SessionStep.Mirrored` — the audit trail mirrors what a step has done.

## Main results

* `QuizOverrides.Applicable.tally` — the counts of rows whose changes can be applied.
* `QuizOverrides.Request.trail` — every request reports what it should.
* `QuizOverrides.auditTrail_of_session` — the audit trail of a session.
-/

namespace QuizOverrides

open QuizOverrides.Action

/-! ### Counts -/

/-- **The counts are those of a table**: rows have been written to it, and so many overrides are
new, have been rewritten by a row, and are there no more. -/
structure Tally (rows : List ImportRow) (table table' : List Override) (total : CommitSummary) :
    Prop where
  written : RowsWritten rows table table'
  created : (table'.filter fun o => o.id ∉ table.map Override.id).length = total.inserted
  rewritten : (table'.filter fun o => rows.any fun row =>
    row.action == .update && row.draft.id == o.id).length = total.updated
  removed : (table.filter fun o => o.id ∉ table'.map Override.id).length = total.deleted

/-- There are as many inserted overrides as inserts. -/
lemma length_inserted (n : Nat) (changes : List RowChange) :
    (inserted n changes).length = inserts changes := by
  induction changes generalizing n with
  | nil => rfl
  | cons c rest ih =>
    unfold inserted inserts
    split_ifs with hc
    · rw [List.length_cons, ih, List.countP_cons_of_pos (by simpa using hc)]
      rfl
    · rw [ih, List.countP_cons_of_neg (by simpa using hc)]
      rfl

/-- The overrides that changes have added to a table are the inserted ones. -/
lemma filter_new_applied {n : Nat} {table : List Override} (hfresh : Fresh n table)
    (changes : List RowChange) :
    (applied n changes table).filter (fun o => o.id ∉ table.map Override.id) =
      inserted n changes := by
  have hkept : (table.filterMap (rewriteAll changes)).filter
      (fun o => o.id ∉ table.map Override.id) = [] := by
    refine List.filter_eq_nil_iff.mpr fun o ho => ?_
    obtain ⟨o₀, ho₀, hrewrite⟩ := List.mem_filterMap.mp ho
    have hmem : o.id ∈ table.map Override.id := by
      rw [id_of_rewriteAll hrewrite]
      exact List.mem_map_of_mem ho₀
    simpa using hmem
  have hnew : (inserted n changes).filter (fun o => o.id ∉ table.map Override.id) =
      inserted n changes := by
    refine List.filter_eq_self.mpr fun o ho => decide_eq_true fun hmem => ?_
    obtain ⟨-, -, -, -, m, hm, -, hid⟩ := exists_of_mem_inserted ho
    obtain ⟨o₀, ho₀, hid₀⟩ := List.mem_map.mp hmem
    exact hfresh m hm o₀ ho₀ (hid₀.trans hid)
  unfold applied
  rw [List.filter_append, hkept, hnew, List.nil_append]

/-- Overrides with different identifiers are as many as the identifiers that they have. -/
lemma length_filter_eq_of_ids {table : List Override} (htable : (table.map Override.id).Nodup)
    {p : Override → Bool} {ids : List (Option String)} (hids : ids.Nodup)
    (h : ∀ id, id ∈ ids ↔ ∃ o ∈ table, p o = true ∧ o.id = id) :
    (table.filter p).length = ids.length := by
  have hnodup : ((table.filter p).map Override.id).Nodup :=
    htable.sublist (List.filter_sublist.map _)
  have hperm : ((table.filter p).map Override.id).Perm ids := by
    refine (List.perm_ext_iff_of_nodup hnodup hids).mpr fun id => ?_
    rw [h]
    simp [and_assoc]
  rw [← hperm.length_eq, List.length_map]

section

variable {rows : List ImportRow} {table : List Override}

/-- Rows that replace or delete overrides are about different ones. -/
lemma Applicable.nodup_draft_ids (happ : Applicable (rows.map ImportRow.change) table)
    {a : OverrideAction} (ha : a = .update ∨ a = .delete) :
    ((rows.filter fun row => row.action == a).map fun row => row.draft.id).Nodup := by
  have htarget : ∀ row ∈ rows.filter (fun row => row.action == a),
      row.change.target.map some = some row.draft.id := by
    intro row hrow
    obtain ⟨hmem, hrow⟩ := List.mem_filter.mp hrow
    obtain rfl := beq_iff_eq.mp hrow
    obtain ⟨id, hid, -⟩ := happ.present row.change (List.mem_map_of_mem hmem) ha
    have htarget : row.change.target = some id :=
      ImportRow.target_change_eq_some.mpr ⟨ha, hid⟩
    rw [htarget]
    exact congrArg some (Option.filter_eq_some_iff.mp hid).1.symm
  have hdistinct : ((rows.filter fun row => row.action == a).filterMap fun row =>
      row.change.target).Nodup := by
    have hall := happ.distinct
    rw [List.filterMap_map] at hall
    exact hall.sublist (List.filter_sublist.filterMap _)
  have hids : ((rows.filter fun row => row.action == a).map fun row => row.draft.id) =
      ((rows.filter fun row => row.action == a).filterMap
        fun row => row.change.target).map some := by
    rw [List.map_filterMap]
    exact (List.filterMap_eq_map_iff_forall_eq_some.mpr htarget).symm
  rw [hids]
  exact hdistinct.map fun _ _ h => Option.some.inj h

/-- **Rows whose changes can be applied** are counted by what they do to the table. -/
theorem Applicable.tally (happ : Applicable (rows.map ImportRow.change) table) {n : Nat}
    (hfresh : Fresh n table) (hids : (table.map Override.id).Nodup) :
    Tally rows table (applied n (rows.map ImportRow.change) table)
      (CommitSummary.zero.countAll (rows.map ImportRow.change)) := by
  have hwritten := happ.rowsWritten hfresh hids
  have hcount (a : OverrideAction) : PreviewSummary.countAction a rows =
      ((rows.filter fun row => row.action == a).map fun row => row.draft.id).length := by
    rw [List.length_map]
    exact List.countP_eq_length_filter
  rw [CommitSummary.countAll_changes]
  refine ⟨hwritten, ?created, ?rewritten, ?removed⟩
  case created =>
    rw [filter_new_applied hfresh, length_inserted]
    unfold inserts
    rw [List.countP_map]
    simp [CommitSummary.zero, PreviewSummary.countAction, Function.comp_def, ImportRow.change]
  case rewritten =>
    refine (length_filter_eq_of_ids (nodup_ids_applied _ hfresh hids)
      (happ.nodup_draft_ids (.inl rfl)) fun id => ?_).trans ?_
    · simp only [List.mem_map, List.mem_filter, beq_iff_eq, List.any_eq_true, Bool.and_eq_true]
      constructor
      · rintro ⟨row, ⟨hrow, haction⟩, rfl⟩
        obtain ⟨id, hid, -, hone⟩ := hwritten.updated row hrow haction
        exact ⟨_, ((hone _).mpr rfl).1, ⟨row, hrow, haction, hid⟩, hid.symm⟩
      · rintro ⟨o, -, ⟨row, hrow, haction, hid⟩, rfl⟩
        exact ⟨row, ⟨hrow, haction⟩, hid⟩
    · rw [← hcount]
      exact (Nat.zero_add _).symm
  case removed =>
    refine (length_filter_eq_of_ids hids (happ.nodup_draft_ids (.inr rfl)) fun id => ?_).trans ?_
    · simp only [List.mem_map, List.mem_filter, beq_iff_eq, decide_eq_true_eq]
      constructor
      · rintro ⟨row, ⟨hrow, haction⟩, rfl⟩
        obtain ⟨id, hid, ⟨o, ho, hoid⟩, hgone⟩ := hwritten.deleted row hrow haction
        refine ⟨o, ho, ?_, hoid.trans hid.symm⟩
        rintro ⟨o', ho', hoid'⟩
        exact hgone o' ho' (hoid'.trans hoid)
      · rintro ⟨o, ho, hgone, rfl⟩
        -- an override that no row is about would still be there
        by_contra hnone
        refine hgone ⟨o, hwritten.kept o ho fun row hrow haction hid => ?_, rfl⟩
        rcases haction with hupdate | hdelete
        · obtain ⟨id, hid', -, hone⟩ := hwritten.updated row hrow hupdate
          exact hgone ⟨_, ((hone _).mpr rfl).1, hid'.symm.trans hid⟩
        · exact hnone ⟨row, ⟨hrow, hdelete⟩, hid⟩
    · rw [← hcount]
      exact (Nat.zero_add _).symm

end

/-! ### Requests -/

/-- **A preview has been kept and reported**: one batch and one row that names it have been added.
-/
def Site.Previews (s : Site) (p : Preview) (s' : Site) : Prop :=
  ∃ batch, batch.id = p.importId ∧ s'.batches = s.batches ++ [batch] ∧
    s.AddsRow s' fun row => row.Records "OVERRIDES_PREVIEWED" batch.id

/-- **An import has been carried out and reported**: the rows that have been validated are written,
and one row with the numbers of the overrides that they have created, rewritten and removed has been
added. -/
def Site.Imports (s : Site) (quizId importId : Field String) (total : CommitSummary) (s' : Site) :
    Prop :=
  ∃ quiz batch run s₁, (ImportService.revalidate quizId importId).Returns s (quiz, batch, run) s₁ ∧
    Tally run.rows s.overrides s'.overrides total ∧ s.AddsRow s' fun row =>
      row.Records "OVERRIDES_IMPORTED" batch.id ∧ row.entry.newValues = some total.payload

/-- **An import has failed, which has been reported**: one row with the reason has been added. -/
def Site.FailsToImport (s : Site) (quizId importId : Field String) (e : CommitError) (s' : Site) :
    Prop :=
  ∃ batch ∈ s.batches, batch.NamedBy quizId importId ∧ s.AddsRow s' fun row =>
    row.Records "OVERRIDE_IMPORT_FAILED" batch.id ∧ row.entry.errorMessage = some (.text e.message)

namespace ImportService

variable {quizId importId : Field String} {origin : RequestOrigin} {s s' : Site}

/-- A preview that returns has been kept and reported. -/
lemma preview_previews {bytes : ByteArray} {form : ImportForm} {p : Preview} (hs : s.Lenient)
    (hfresh : s.FreshBatches) (h : (preview quizId bytes form origin).Returns s p s') :
    s.Previews p s' := by
  obtain ⟨batch, hkept, -, -, hbatches⟩ := preview_keeps h
  refine ⟨batch, hkept.id, hbatches hfresh, ?_⟩
  rw [hkept.id]
  exact preview_reports hs h

/-- **A commit that returns** has been carried out and reported. -/
theorem commit_imports {total : CommitSummary} (hs : s.Lenient) (hids : s.FreshIds)
    (h : (commit quizId importId origin).Returns s total s') :
    s.Imports quizId importId total s' := by
  obtain ⟨quiz, batch, run, s₁, hrevalidate, hcan, htotal, hoverrides⟩ :=
    commit_returns_applied hids.ids_nodup hids.freshOverrides h
  obtain ⟨_, _, _, _, hrevalidate', hrow⟩ := commit_reports hs h
  obtain ⟨rfl, rfl, rfl, rfl⟩ := revalidate_unique hrevalidate hrevalidate'
  obtain ⟨hrevalidated, -⟩ := revalidate_returns hrevalidate
  refine ⟨_, _, _, _, hrevalidate, ?_, hrow⟩
  rw [hoverrides, htotal]
  exact (hrevalidated.applicable hcan hids.ids_nodup).tally hids.freshOverrides hids.ids_nodup

/-- A commit that throws leaves the overrides as they were, where rows are taken back. -/
lemma commit_throws_overrides {e : Refusal} (hs : s.Lenient) (hrows : s.rollback = .rows)
    (h : (commit quizId importId origin).Throws s e s') : s'.overrides = s.overrides := by
  refine (overrides_eq_or_removalFails hrows h).resolve_right ?_
  rintro ⟨quiz, batch, run, total, s₁, s₂, err, hrevalidate, -, hcommit, hstrike, -⟩
  have hlenient : s₂.Lenient := (lenient_commitChanges _).keeps_of_returns hcommit
    (((lenient_veil quizId).revalidate importId).keeps_of_returns hrevalidate hs)
  rw [hlenient.strike_removal] at hstrike
  simp at hstrike

end ImportService

/-- **What a request reports**, by what it comes to. -/
inductive Request.Trail (r : Request) (s : Site) : Except Refusal Answer → Site → Prop where
  /-- A preview that returns. -/
  | previewed {p : Preview} {s' : Site} (h : s.Previews p s') : r.Trail s (.ok (.preview p)) s'
  /-- A commit that returns. -/
  | committed {quizId importId : Field String} {origin : RequestOrigin} {total : CommitSummary}
      {s' : Site} (hr : r = .commit quizId importId origin)
      (h : s.Imports quizId importId total s') : r.Trail s (.ok (.committed total)) s'
  /-- A commit whose changes fail. -/
  | failed {quizId importId : Field String} {origin : RequestOrigin} {e : CommitError} {s' : Site}
      (hr : r = .commit quizId importId origin) (h : s.FailsToImport quizId importId e s') :
      r.Trail s (.error (.notImported e)) s'
  /-- Anything else reports nothing. -/
  | silent {result : Except Refusal Answer} {s' : Site} (haudit : s'.audit = s.audit)
      (hanswer : ∀ a, result = .ok a → a = .discarded ∨ ∃ d, a = .template d)
      (hcommit : ∀ quizId importId origin, r = .commit quizId importId origin →
        ∀ e, result ≠ .error (.notImported e)) : r.Trail s result s'

/-- What is reported does not depend on the rest of the site. -/
lemma Request.Trail.congr {r : Request} {s s₁ s₂ : Site} {result : Except Refusal Answer}
    (h : r.Trail s result s₁) (hs₂ : s₂.stored = s₁.stored) : r.Trail s result s₂ := by
  have haudit : s₂.audit = s₁.audit := Site.congr_of_mask Site.audit hs₂ fun _ => rfl
  have hrow {P : AuditRow → Prop} (h : s.AddsRow s₁ P) : s.AddsRow s₂ P := by
    unfold Site.AddsRow
    rwa [haudit]
  cases h with
  | previewed h =>
    obtain ⟨batch, hid, hbatches, h⟩ := h
    exact .previewed ⟨batch, hid, (Site.batches_of_stored hs₂).1.trans hbatches, hrow h⟩
  | committed hr h =>
    obtain ⟨quiz, batch, run, s₀, hrevalidate, htally, h⟩ := h
    refine .committed hr ⟨quiz, batch, run, s₀, hrevalidate, ?_, hrow h⟩
    rwa [Site.congr_of_mask Site.overrides hs₂ fun _ => rfl]
  | failed hr h =>
    obtain ⟨batch, hmem, hnamed, h⟩ := h
    exact .failed hr ⟨batch, hmem, hnamed, hrow h⟩
  | silent ha hanswer hcommit => exact .silent (haudit.trans ha) hanswer hcommit

namespace Request

/-- A preview is reported if it returns. -/
lemma preview_trail (quizId : Field String) (file : Option Upload) (form : ImportForm)
    (origin : RequestOrigin) {s : Site} (hs : s.Lenient) (hfresh : s.FreshBatches) :
    (preview quizId file form origin).Trail s
      (runOn (preview quizId file form origin).answer.run s).1
      (runOn (preview quizId file form origin).answer.run s).2 := by
  have hupload := acceptUpload_frames file s
  have haudit := ((trail_veil s.audit quizId).acceptUpload file).keeps rfl
  have hlenient := ((lenient_veil quizId).acceptUpload file).keeps hs
  unfold answer
  rw [runOn_run_bind]
  rcases haccept : runOn (acceptUpload file).run s with ⟨e | bytes, s₁⟩ <;>
    rw [haccept] at hupload haudit hlenient
  · exact .silent haudit (by simp) (by simp)
  · obtain ⟨hbatches, hcount⟩ := Site.batches_of_records hupload
    dsimp only
    rw [runOn_run_bind]
    rcases returns_or_throws (ImportService.preview quizId bytes form origin) s₁ with
      ⟨p, s', h⟩ | ⟨e, s', h⟩ <;>
      rw [show runOn (ImportService.preview quizId bytes form origin).run s₁ = _ from h]
    · have hfresh₁ : s₁.FreshBatches := by
        unfold Site.FreshBatches
        rwa [hbatches, hcount]
      obtain ⟨batch, hid, hadded, hrow⟩ := ImportService.preview_previews hlenient hfresh₁ h
      refine .previewed ⟨batch, hid, by rw [← hbatches]; exact hadded, ?_⟩
      unfold Site.AddsRow
      rw [← haudit]
      exact hrow
    · exact .silent ((ImportService.preview_throws_audit h).trans haudit) (by simp) (by simp)

/-- **Every request reports what it should.** -/
theorem trail (r : Request) {s : Site} (hs : s.Lenient) (hids : s.FreshIds) :
    r.Trail s (runOn r.answer.run s).1 (runOn r.answer.run s).2 := by
  cases r with
  | preview quizId file form origin =>
    exact preview_trail quizId file form origin hs hids.freshBatches
  | commit quizId importId origin =>
    unfold answer
    rw [runOn_run_bind]
    rcases hrun : runOn (ImportService.commit quizId importId origin).run s with ⟨e | total, s'⟩
    · -- a commit reports a failed import, and no other refusal
      by_cases he : ∃ reason, e = .notImported reason
      · obtain ⟨reason, rfl⟩ := he
        exact .failed rfl (ImportService.commit_reports_failure hs hrun)
      · rw [not_exists] at he
        exact .silent (ImportService.commit_throws_audit hrun he) (by simp)
          fun _ _ _ _ reason h => he reason (Except.error.inj h)
    · exact .committed rfl (ImportService.commit_imports hs hids hrun)
  | discard quizId importId =>
    have haudit := ImportService.discard_audit quizId importId s
    unfold answer
    rw [runOn_run_bind]
    rcases hrun : runOn (ImportService.discard quizId importId).run s with ⟨e | u, s'⟩ <;>
      rw [hrun] at haudit
    · exact .silent haudit (by simp) (by simp)
    · exact .silent haudit (fun a ha => .inl (Except.ok.inj ha).symm) (by simp)
  | template quizId mode =>
    have haudit := ImportService.template_audit quizId mode s
    unfold answer
    rw [runOn_run_bind]
    rcases hrun : runOn (ImportService.template quizId mode).run s with ⟨e | d, s'⟩ <;>
      rw [hrun] at haudit
    · exact .silent haudit (by simp) (by simp)
    · exact .silent haudit (fun a ha => .inr ⟨_, (Except.ok.inj ha).symm⟩) (by simp)

/-- **Where rows are taken back**, only a commit that returns changes overrides. -/
lemma overrides_of_not_committed (r : Request) {s : Site} (hs : s.Lenient)
    (hrows : s.rollback = .rows) (hr : ∀ total, (runOn r.answer.run s).1 ≠ .ok (.committed total)) :
    (runOn r.answer.run s).2.overrides = s.overrides := by
  cases r with
  | commit quizId importId origin =>
    unfold answer at hr ⊢
    rw [runOn_run_bind] at hr ⊢
    rcases hrun : runOn (ImportService.commit quizId importId origin).run s with ⟨e | total, s'⟩
    · exact ImportService.commit_throws_overrides hs hrows hrun
    · rw [hrun] at hr
      exact absurd rfl (hr total)
  | _ => exact overrides_of_ne_commit (by simp) s

end Request

/-! ### Sessions -/

/-- The event schedules no fault of reports or of the removal of batches. -/
def Event.Lenient (e : Event) : Prop := ∀ f, e = .change (.schedule f) → f.Lenient

/-- Nothing that others change is reported. -/
lemma SiteChange.apply_audit (c : SiteChange) (s : Site) : (c.apply s).audit = s.audit := by
  cases c with
  | addOverride id data => cases id <;> rfl
  | _ => rfl

namespace SessionStep

variable {step : SessionStep}

/-- **The audit trail mirrors what a step has done.** -/
structure Mirrored (step : SessionStep) : Prop where
  /-- A preview that returns has added its batch, and a row that names the batch. -/
  preview : ∀ p, step.outcome.answer? = some (.preview p) → step.before.Previews p step.after
  /-- A commit that returns has added a row with the numbers of overrides that it has written. -/
  commit : ∀ total, step.outcome.answer? = some (.committed total) →
    ∃ quizId importId origin, step.event.request? = some (.commit quizId importId origin) ∧
      step.before.Imports quizId importId total step.after
  /-- A commit that is refused because nothing has been imported has added a row with the reason. -/
  failure : ∀ quizId importId origin e,
    step.event.request? = some (.commit quizId importId origin) → step.Refuses (.notImported e) →
      step.before.FailsToImport quizId importId e step.after
  /-- Nothing else adds a row. -/
  silent : (∀ p, step.outcome.answer? ≠ some (.preview p)) →
    (∀ total, step.outcome.answer? ≠ some (.committed total)) →
    (∀ quizId importId origin e, step.event.request? = some (.commit quizId importId origin) →
      ¬step.Refuses (.notImported e)) → step.after.audit = step.before.audit
  /-- Where the rows of a failed transaction are taken back, a request changes overrides only if it
  adds a row that says so. -/
  overrides : step.before.rollback = .rows → (∀ c, step.event ≠ .change c) →
    step.after.overrides ≠ step.before.overrides → ∃ importId,
      step.before.AddsRow step.after fun row => row.Records "OVERRIDES_IMPORTED" importId

/-- Faults that reports and batches need fear do not come up by themselves. -/
lemma lenient (h : step.before.Lenient) (he : step.event.Lenient) : step.after.Lenient := by
  obtain ⟨s, e, outcome, s', hruns⟩ := step
  obtain rfl : s' = (runOn e.run s).2 := (congrArg Prod.snd hruns).symm
  cases e with
  | change c =>
    cases c with
    | schedule f =>
      exact List.forall_mem_append.mpr ⟨h, fun g hg => List.mem_singleton.mp hg ▸ he f rfl⟩
    | addOverride id data => cases id <;> exact h
    | _ => exact h
  | request | httpRequest =>
    exact (Event.blind_run_of_veils lenient_veil lenient_reports lenient_commitChanges
      (by simp)).keeps h

/-- A step refuses what its request is answered with. -/
lemma refuses_iff {e : Refusal} {r : Request} (hrequest : step.event.request? = some r) :
    step.Refuses e ↔ (runOn r.answer.run step.before).1 = .error e := by
  constructor
  · rintro ⟨r', s', hrequest', hthrows⟩
    obtain rfl := Option.some.inj (hrequest'.symm.trans hrequest)
    exact congrArg Prod.fst hthrows
  · exact fun h => ⟨r, (runOn r.answer.run step.before).2, hrequest, Prod.ext h rfl⟩

/-- **What a step reports** is what its request does. -/
theorem mirrored_of_trail {r : Request} (hrequest : step.event.request? = some r)
    (hshows : step.outcome.Shows (runOn r.answer.run step.before).1)
    (htrail : r.Trail step.before (runOn r.answer.run step.before).1 step.after)
    (hoverrides : step.before.rollback = .rows →
      (∀ total, (runOn r.answer.run step.before).1 ≠ .ok (.committed total)) →
      step.after.overrides = step.before.overrides) : step.Mirrored := by
  have hrefuses (e : Refusal) : step.Refuses e ↔ (runOn r.answer.run step.before).1 = .error e :=
    refuses_iff hrequest
  have hanswer := hshows.answer?_eq
  generalize (runOn r.answer.run step.before).1 = result at *
  -- each case has one answer, and the promises about other answers are empty
  cases htrail with
  | @previewed p _ h =>
    have hanswer : step.outcome.answer? = some (.preview p) := hanswer
    refine ⟨fun p' hp' => ?_, fun total htotal => ?_, fun _ _ _ e _ he => ?_, fun hnone => ?_,
      fun hrows _ hne => absurd (hoverrides hrows (by simp)) hne⟩
    · obtain rfl := Answer.preview.inj (Option.some.inj (hanswer.symm.trans hp'))
      exact h
    · exact absurd (hanswer.symm.trans htotal) (by simp)
    · exact absurd ((hrefuses _).mp he) (by simp)
    · exact absurd hanswer (hnone p)
  | @committed quizId importId origin total _ hr h =>
    have hanswer : step.outcome.answer? = some (.committed total) := hanswer
    refine ⟨fun p hp => ?_, fun total' htotal' => ?_, fun _ _ _ e _ he => ?_,
      fun _ hnone => absurd hanswer (hnone total), fun _ _ _ => ?_⟩
    · exact absurd (hanswer.symm.trans hp) (by simp)
    · obtain rfl := Answer.committed.inj (Option.some.inj (hanswer.symm.trans htotal'))
      exact ⟨quizId, importId, origin, hr ▸ hrequest, h⟩
    · exact absurd ((hrefuses _).mp he) (by simp)
    · obtain ⟨_, batch, _, _, -, -, row, hrow, himported, -⟩ := h
      exact ⟨batch.id, row, hrow, himported⟩
  | @failed quizId importId origin e _ hr h =>
    have hanswer : step.outcome.answer? = none := hanswer
    refine ⟨fun p hp => ?_, fun total htotal => ?_, fun quizId' importId' origin' e' hr' he' => ?_,
      fun _ _ hnone => ?_, fun hrows _ hne => absurd (hoverrides hrows (by simp)) hne⟩
    · exact absurd (hanswer.symm.trans hp) (by simp)
    · exact absurd (hanswer.symm.trans htotal) (by simp)
    · obtain ⟨rfl, rfl, -⟩ :=
        Request.commit.inj (hr.symm.trans (Option.some.inj (hrequest.symm.trans hr')))
      obtain rfl := Refusal.notImported.inj (Except.error.inj ((hrefuses _).mp he'))
      exact h
    · exact absurd ((hrefuses _).mpr rfl) (hnone quizId importId origin e (hr ▸ hrequest))
  | silent haudit hleft hcommit =>
    have hnone (total : CommitSummary) : result ≠ .ok (.committed total) := fun h => by
      simpa using hleft _ h
    refine ⟨fun p hp => ?_, fun total htotal => ?_, fun quizId importId origin e hr he => ?_,
      fun _ _ _ => haudit, fun hrows _ hne => absurd (hoverrides hrows hnone) hne⟩
    · simpa using hleft _ (hshows.eq_ok hp)
    · exact absurd (hshows.eq_ok htotal) (hnone total)
    · exact absurd ((hrefuses _).mp he) (hcommit _ _ _ (Option.some.inj (hrequest.symm.trans hr)) e)

/-- Without a request nothing is reported, and overrides are changed by others only. -/
lemma audit_of_no_request (hrequest : step.event.request? = none) :
    step.after.audit = step.before.audit ∧
      ((∀ c, step.event ≠ .change c) → step.after.overrides = step.before.overrides) := by
  have hafter : (runOn step.event.run step.before).2 = step.after := congrArg Prod.snd step.runs
  rcases Event.of_no_request hrequest with ⟨c, hc⟩ | ⟨hr, refusal, he, hread⟩
  · rw [hc] at hafter
    refine ⟨?_, fun h => absurd hc (h c)⟩
    rw [← hafter]
    exact c.apply_audit step.before
  · rw [he] at hafter
    obtain ⟨-, hstored, -⟩ := Event.run_of_unread hread step.before
    rw [hafter] at hstored
    exact ⟨Site.congr_of_mask Site.audit hstored fun _ => rfl,
      fun _ => Site.congr_of_mask Site.overrides hstored fun _ => rfl⟩

/-- **What a step reports** mirrors what it has done. -/
theorem mirrored (step : SessionStep) (hlenient : step.before.Lenient)
    (hids : step.before.FreshIds) : step.Mirrored := by
  rcases hrequest : step.event.request? with _ | r
  · have hanswer := (step.event.run_of_no_request hrequest step.before).1
    rw [step.runs] at hanswer
    obtain ⟨haudit, hoverrides⟩ := audit_of_no_request hrequest
    refine ⟨fun p hp => ?_, fun total htotal => ?_, fun _ _ _ _ hr => ?_, fun _ _ _ => haudit,
      fun _ hchange hne => absurd (hoverrides hchange) hne⟩
    · simp [hanswer] at hp
    · simp [hanswer] at htotal
    · simp [hrequest] at hr
  · obtain ⟨hshows, hstored, -⟩ := step.event.run_of_request hrequest step.before
    rw [step.runs] at hshows hstored
    refine mirrored_of_trail hrequest hshows ((r.trail hlenient hids).congr hstored)
      fun hrows hnone => ?_
    exact (Site.congr_of_mask Site.overrides hstored fun _ => rfl).trans
      (r.overrides_of_not_committed hlenient hrows hnone)

end SessionStep

/-- **The audit trail of a session mirrors its effects**, where no fault waits for reports or for
the removal of batches, neither at first nor later, and the identifiers that a step finds are those
of a database.

**Proof sketch.** Events other than the scheduling of a fault only wear the schedule, so no such
fault comes up. Each request reports in one place, after all else has been done, and nothing before
that place touches the trail; the report then meets no fault. A commit that throws after its
transaction would leave overrides without a report, but there it is only the removal of the batch
that throws. -/
theorem auditTrail_of_session {start : Site} {events : List Event} (hstart : start.Lenient)
    (hevents : ∀ e ∈ events, e.Lenient) {step : SessionStep}
    (hstep : step ∈ sessionSteps start events) (hids : step.before.FreshIds) : step.Mirrored := by
  obtain ⟨hlenient, -⟩ := before_of_mem_sessionSteps_of_events
    (fun _ he hs => SessionStep.lenient hs he) hstart hevents hstep
  exact step.mirrored hlenient hids

/-- The upload of the small file, its commit while an override cannot be saved, and the same commit
again. -/
def strugglingSession : List Event :=
  [smallUpload, .change (.schedule ⟨.overrides, .save, 1, .error "connection lost"⟩), smallCommit,
    smallCommit]

/-- The audit trail of the struggling session. -/
theorem auditTrail_of_strugglingSession :
    (∀ step ∈ sessionSteps smallSite strugglingSession,
      step.before.FreshIds ∧ step.before.rollback = .rows ∧ step.Mirrored) ∧
    (runOn (runSession strugglingSession) smallSite).2.audit.map (fun row => row.entry.action) =
      [some (.text "OVERRIDES_PREVIEWED"), some (.text "OVERRIDE_IMPORT_FAILED"),
        some (.text "OVERRIDES_IMPORTED")] := by
  have hlenient : smallSite.Lenient := by simp [Site.Lenient, smallSite]
  have hevents : ∀ e ∈ strugglingSession, e.Lenient := by
    simp [strugglingSession, Event.Lenient, smallUpload, smallCommit, ScheduledFault.Lenient]
  have hsteps : ∀ step ∈ sessionSteps smallSite strugglingSession,
      step.before.overrides = smallSite.overrides ∧ step.before.overrideCount = 0 ∧
        step.before.rollback = .rows := by
    decide +kernel
  refine ⟨fun step hstep => ?_, by decide +kernel⟩
  obtain ⟨hoverrides, hcount, hrows⟩ := hsteps step hstep
  have hids : step.before.FreshIds := by
    refine ⟨?_, ?_, ?_⟩
    · rw [hoverrides]
      exact smallSite_wellFormed.ids_nodup
    · rw [hoverrides, hcount]
      exact smallSite_fresh
    · exact (SessionStep.numbered_of_mem_sessionSteps rfl hstep).freshBatches
  exact ⟨hids, hrows, auditTrail_of_session hlenient hevents hstep hids⟩

end QuizOverrides
