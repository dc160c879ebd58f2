import QuizOverrides.Proofs.BatchLifecycle
import QuizOverrides.Proofs.Blindness

set_option autoImplicit false

/-!
# Faults of the audit trail

A report that cannot be saved is told to the log, and the request that made it goes on. So nobody
but a reader of the audit trail or of the log can find out whether reports have been saved: a
session in which saving reports fails, at whatever places, and the same session without these faults
give the same outcomes, step by step, and leave the same records.

## Main definitions

* `QuizOverrides.Site.unaudited` — a site without its audit trail and the lines of its components.
* `QuizOverrides.SameButAudit` — sites that differ in nothing else.
* `QuizOverrides.Event.failsAudit` — an event that schedules a fault of the audit trail.

## Main results

* `QuizOverrides.sameButAudit_veil` — requests do not see the audit trail.
* `QuizOverrides.Event.blind_run` — neither does any event of a session.
* `QuizOverrides.session_without_audit_faults` — sessions with and without such faults.
-/

namespace QuizOverrides

open QuizOverrides.Action

/-! ### The schedule -/

/-- The fault is not one of the audit trail. -/
def ScheduledFault.sparesAudit (f : ScheduledFault) : Bool := f.table ≠ .audit

/-- An access to another table does not meet the faults of the audit trail. -/
lemma strike_filter_sparesAudit {table : Table} (htable : table ≠ .audit) (kind : Access)
    (faults : List ScheduledFault) :
    strike table kind (faults.filter ScheduledFault.sparesAudit) =
      ((strike table kind faults).1,
        (strike table kind faults).2.filter ScheduledFault.sparesAudit) := by
  induction faults with
  | nil => rfl
  | cons f rest ih =>
    by_cases hf : f.table = table ∧ f.access = kind
    · have hspares (n : Nat) : ScheduledFault.sparesAudit ⟨f.table, f.access, n, f.thrown⟩ = true :=
        by simp [ScheduledFault.sparesAudit, hf.1, htable]
      rw [List.filter_cons_of_pos (hspares f.countdown), strike_cons_of_eq hf,
        strike_cons_of_eq hf]
      split_ifs
      · rfl
      · rw [List.filter_cons_of_pos (hspares _)]
    · rw [strike_cons_of_ne hf]
      by_cases hspares : f.sparesAudit = true
      · rw [List.filter_cons_of_pos hspares, List.filter_cons_of_pos hspares,
          strike_cons_of_ne hf, ih]
      · rw [List.filter_cons_of_neg hspares, List.filter_cons_of_neg hspares, ih]

/-- An access to the audit trail meets no other faults. -/
lemma filter_sparesAudit_strike (kind : Access) (faults : List ScheduledFault) :
    (strike .audit kind faults).2.filter ScheduledFault.sparesAudit =
      faults.filter ScheduledFault.sparesAudit := by
  induction faults with
  | nil => rfl
  | cons f rest ih =>
    by_cases hf : f.table = .audit ∧ f.access = kind
    · have hspares (n : Nat) :
          ¬ScheduledFault.sparesAudit ⟨f.table, f.access, n, f.thrown⟩ = true := by
        simp [ScheduledFault.sparesAudit, hf.1]
      rw [List.filter_cons_of_neg (hspares f.countdown), strike_cons_of_eq hf]
      split_ifs
      · rfl
      · rw [List.filter_cons_of_neg (hspares _)]
    · rw [strike_cons_of_ne hf, List.filter_cons, List.filter_cons, ih]

/-! ### Sites -/

/-- **A site without its audit trail**: without the rows of the trail, the lines that components
have written, and the faults that wait for the trail. -/
def Site.unaudited (s : Site) : Site :=
  { s with audit := [], logs := [], faults := s.faults.filter ScheduledFault.sparesAudit }

/-- **The sites differ in nothing but the audit trail**, the lines that components have written, and
the faults that wait for the trail. -/
def SameButAudit (s t : Site) : Prop := s.unaudited = t.unaudited

namespace SameButAudit

variable {s t : Site}

/-- What does not depend on the audit trail is the same. -/
lemma congr {γ : Type} (h : SameButAudit s t) (f : Site → γ) (hf : ∀ s, f s.unaudited = f s) :
    f s = f t := by
  rw [← hf s, ← hf t, h]

/-- What is done to a site without regard to the audit trail makes no difference. -/
lemma map (h : SameButAudit s t) (f : Site → Site) (hf : ∀ s, f s.unaudited = (f s).unaudited) :
    SameButAudit (f s) (f t) :=
  (hf s).symm.trans ((congrArg f h).trans (hf t))

/-- Subjects, quizzes, overrides and batches are the same. -/
lemma looksLike (h : SameButAudit s t) (quizId : Field String) : s.LooksLike quizId t where
  users := h.congr Site.users fun _ => rfl
  groups := h.congr Site.groups fun _ => rfl
  quizzes := h.congr Site.quizzes fun _ => rfl
  options := h.congr Site.options fun _ => rfl
  runtime := h.congr Site.runtime fun _ => rfl
  clock := h.congr Site.clock fun _ => rfl
  overrides := by rw [h.congr Site.overrides fun _ => rfl]
  batches := by rw [h.congr Site.batches fun _ => rfl]

/-- The same faults of another table strike. -/
lemma strike_eq (h : SameButAudit s t) {table : Table} (htable : table ≠ .audit) (kind : Access) :
    (strike table kind s.faults).1 = (strike table kind t.faults).1 :=
  h.congr (fun s => (strike table kind s.faults).1) fun s => by
    show (strike table kind (s.faults.filter ScheduledFault.sparesAudit)).1 = _
    rw [strike_filter_sparesAudit htable]

/-- An access to another table keeps two sites equal but for the audit table. -/
lemma accessed (h : SameButAudit s t) {table : Table} (htable : table ≠ .audit) (kind : Access) :
    SameButAudit (s.accessed table kind) (t.accessed table kind) := by
  refine h.map (fun s => s.accessed table kind) fun s => ?_
  unfold Site.accessed Site.unaudited
  rw [strike_filter_sparesAudit htable]

/-- A transaction is taken back without regard to the audit trail. -/
lemma rolledBack (h : SameButAudit s t) {s' t' : Site} (h' : SameButAudit s' t') :
    SameButAudit (s'.rolledBack s) (t'.rolledBack t) := by
  have hback (s s' : Site) : s'.unaudited.rolledBack s.unaudited = (s'.rolledBack s).unaudited := by
    unfold Site.rolledBack
    rw [show s'.unaudited.rollback = s'.rollback from rfl]
    cases s'.rollback <;> rfl
  calc (s'.rolledBack s).unaudited
      = s'.unaudited.rolledBack s.unaudited := (hback s s').symm
    _ = t'.unaudited.rolledBack t.unaudited := by rw [h, h']
    _ = (t'.rolledBack t).unaudited := hback t t'

end SameButAudit

/-! ### Requests -/

/-- An access to another table does not tell two such sites apart. -/
lemma SameButAudit.blind_access {table : Table} (htable : table ≠ .audit) (kind : Access) :
    Blind SameButAudit (access table kind).run where
  alike s t h := by
    constructor <;> rw [runOn_access, runOn_access]
    · dsimp only
      rw [h.strike_eq htable]
    · exact h.accessed htable kind

/-- **Whether a report has been saved** shows in the audit trail and the log only. -/
lemma Audit.report_unaudited (entry : AuditEntry) (s : Site) :
    (runOn (report entry) s).2.unaudited =
      { s.unaudited with accesses := .audit :: s.accesses } := by
  have haccessed : (s.accessed .audit .save).unaudited =
      { s.unaudited with accesses := .audit :: s.accesses } := by
    unfold Site.accessed Site.unaudited
    rw [filter_sparesAudit_strike]
  rw [← haccessed]
  unfold report
  rw [runOn_bind, runOn_access]
  rcases (strike .audit .save s.faults).1 with _ | e <;> rfl

/-- Nor does a report. -/
lemma sameButAudit_reports : BlindReports SameButAudit := by
  refine fun entry => ⟨fun s t h => ⟨rfl, ?_⟩⟩
  unfold SameButAudit
  rw [Audit.report_unaudited, Audit.report_unaudited, h, h.congr Site.accesses fun _ => rfl]

/-- **Requests do not see the audit trail**, nor the faults that wait for it. -/
theorem sameButAudit_veil (quizId : Field String) : Veil SameButAudit quizId :=
  .of_writes (fun _ _ h => h.looksLike quizId)
    (fun _ _ h => ⟨h.congr Site.batchCount fun _ => rfl, h.congr Site.drawSource fun _ => rfl,
      h.congr Site.drawsMade fun _ => rfl⟩)
    (fun _ kind htable => SameButAudit.blind_access htable kind) (fun _ _ _ h => h)
    (fun f _ _ h => h.map (fun s => { s with console := f s.console }) fun _ => rfl)
    (fun _ _ h => h.map (fun s => { s with drawsMade := s.drawsMade + 1 }) fun _ => rfl)
    (fun id mode delimiter content passwords _ _ _ h =>
      h.map (fun s => s.withBatch (s.newBatch id mode delimiter content passwords)) fun _ => rfl)
    fun id _ _ h =>
      h.map (fun s => { s with batches := s.batches.filter fun b => b.id ≠ id }) fun _ => rfl

/-! ### Commits -/

/-- **Changes are committed alike**, and taken back alike. -/
lemma SameButAudit.blind_commitChanges (changes : List RowChange) :
    Blind SameButAudit (commitChanges changes).run := by
  have happlied : Blind SameButAudit (applyChanges changes .zero).run := by
    refine .applyChanges (fun c _ => .applyChange (fun kind => blind_access (by decide) kind)
      (fun s t h => h.congr Site.overrideCount fun _ => rfl)
      (fun s t h => h.map (fun s => s.inserted c.draft.data) fun _ => rfl)
      (fun id _ s t h => ?_) (fun id _ s t h => ?_) fun id _ s t h => ?_) _
    · rw [h.congr Site.overrides fun _ => rfl]
    · exact h.map (fun s => s.supersede (replaceData (.given id) c.draft.data s.overrides))
        fun _ => rfl
    · exact h.map (fun s => s.supersede (removeId (.given id) s.overrides)) fun _ => rfl
  refine .run_bind ⟨fun s t h => ?_⟩ fun summary =>
    .run_bind (.lift ((sameButAudit_veil .absent).logLine _)) fun _ => .pure _
  have hbegun : SameButAudit s.begun t.begun := by
    have hcounted := h.map (fun s => { s with transactions := s.transactions + 1 }) fun _ => rfl
    exact hcounted.accessed (by decide) .begin
  exact .transaction _ (h.strike_eq (by decide) .begin) hbegun (happlied.alike _ _ hbegun)
    (fun _ _ h' => h') fun _ _ h' => hbegun.rolledBack h'

/-! ### Events -/

/-- The audit trail has no part in what others change. -/
lemma SiteChange.unaudited_apply (c : SiteChange) (s : Site) :
    (c.apply s.unaudited).unaudited = (c.apply s).unaudited := by
  cases c with
  | schedule f => simp [apply, Site.unaudited, List.filter_append, List.filter_filter]
  | addOverride id data =>
    cases id <;>
      simp [apply, Site.addOverride, Site.unaudited, Site.putOverride, List.filter_filter]
  | _ => simp [apply, Site.unaudited, Site.supersede, List.filter_filter]

/-- **No event of a session sees the audit trail.** -/
theorem Event.blind_run (e : Event) : Blind SameButAudit e.run := by
  cases e with
  | change c =>
    refine .bind (.modify fun s t h => ?_) fun _ => .pure _
    unfold SameButAudit
    rw [← c.unaudited_apply s, ← c.unaudited_apply t, h]
  | request | httpRequest =>
    exact blind_run_of_veils sameButAudit_veil sameButAudit_reports
      SameButAudit.blind_commitChanges (by simp)

/-! ### Sessions -/

/-- The event schedules a fault of the audit trail. -/
def Event.failsAudit : Event → Bool
  | change (.schedule f) => !f.sparesAudit
  | _ => false

/-- The site without the faults that wait for its audit trail. -/
def Site.sparingAudit (s : Site) : Site :=
  { s with faults := s.faults.filter ScheduledFault.sparesAudit }

/-- A fault of the audit trail is scheduled without any other effect. -/
lemma Event.run_of_failsAudit {e : Event} (he : e.failsAudit = true) (s : Site) :
    (runOn e.run s).1 = .changed ∧ SameButAudit (runOn e.run s).2 s := by
  unfold failsAudit at he
  split at he
  · rename_i f
    have hfault : ([f] : List ScheduledFault).filter ScheduledFault.sparesAudit = [] := by
      rw [List.filter_cons_of_neg (by simpa using he), List.filter_nil]
    refine ⟨rfl, ?_⟩
    show ({ s with faults := s.faults ++ [f] } : Site).unaudited = s.unaudited
    unfold Site.unaudited
    simp only [List.filter_append, hfault, List.append_nil]
  · exact absurd he Bool.false_ne_true

/-- **A step goes as another**: it is made by the same event and has the same outcome, and before
and after it the sites differ in nothing but the audit trail. -/
structure SessionStep.GoesAs (step step' : SessionStep) : Prop where
  event : step.event = step'.event
  outcome : step.outcome = step'.outcome
  before : SameButAudit step.before step'.before
  after : SameButAudit step.after step'.after

/-- Sessions from sites that differ in nothing but the audit trail go alike, whatever faults of the
trail one of them schedules. -/
lemma SameButAudit.sessions {s t : Site} (h : SameButAudit s t) (events : List Event) :
    List.Forall₂ SessionStep.GoesAs
        ((sessionSteps s events).filter fun step => !step.event.failsAudit)
        (sessionSteps t (events.filter fun e => !e.failsAudit)) ∧
      SameButAudit (runOn (runSession events) s).2
        (runOn (runSession (events.filter fun e => !e.failsAudit)) t).2 := by
  induction events generalizing s t with
  | nil => exact ⟨.nil, h⟩
  | cons e rest ih =>
    rw [show sessionSteps s (e :: rest) =
      e.stepFrom s :: sessionSteps (e.stepFrom s).after rest from rfl]
    by_cases he : e.failsAudit = true
    · obtain ⟨-, hafter⟩ := Event.run_of_failsAudit he s
      obtain ⟨hsteps, hlast⟩ := ih (hafter.trans h)
      rw [List.filter_cons_of_neg (by simp [Event.stepFrom, he]),
        List.filter_cons_of_neg (by simp [he])]
      exact ⟨hsteps, hlast⟩
    · obtain ⟨houtcome, hafter⟩ := e.blind_run.alike s t h
      obtain ⟨hsteps, hlast⟩ := ih hafter
      rw [List.filter_cons_of_pos (by simp [Event.stepFrom, he]),
        List.filter_cons_of_pos (by simp [he])]
      exact ⟨.cons ⟨rfl, houtcome, h, hafter⟩ hsteps, hlast⟩

/-- **Sessions with and without faults of the audit trail.** Compare any session with the same
session without these faults, neither those that wait for the trail when it begins nor those that
are scheduled while it lasts. Step by step both have the same outcomes, the same answers and the
same errors, and the same records, counters, draws and console before and after; only the rows of
the trail and the lines of components may differ. The steps that schedule faults of the trail do
nothing else.

**Proof sketch.** A report makes one access and leaves all but the trail and the log as they are,
whether it is saved or not; it never throws. All other accesses meet the same faults in both
sessions, for faults of different tables do not disturb each other. -/
theorem session_without_audit_faults (start : Site) (events : List Event) :
    List.Forall₂ SessionStep.GoesAs
        ((sessionSteps start events).filter fun step => !step.event.failsAudit)
        (sessionSteps start.sparingAudit (events.filter fun e => !e.failsAudit)) ∧
      (∀ step ∈ sessionSteps start events, step.event.failsAudit = true →
        step.outcome = .changed ∧ SameButAudit step.after step.before) ∧
      SameButAudit (runOn (runSession events) start).2
        (runOn (runSession (events.filter fun e => !e.failsAudit)) start.sparingAudit).2 := by
  have hstart : SameButAudit start start.sparingAudit := by
    simp [SameButAudit, Site.unaudited, Site.sparingAudit, List.filter_filter]
  obtain ⟨hsteps, hlast⟩ := hstart.sessions events
  refine ⟨hsteps, fun step _ hfails => ?_, hlast⟩
  have hrun := Event.run_of_failsAudit hfails step.before
  rw [step.runs] at hrun
  exact hrun

end QuizOverrides
