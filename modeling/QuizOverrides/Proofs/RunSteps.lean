import QuizOverrides.Proofs.Requests

set_option autoImplicit false

/-!
# Runs that are used again

A run may be processed and imported any number of times, while others change the site. It keeps what
it has reached, so each of its flags and results has to be that of the right step: whether it can be
imported is a matter of the last processing alone, and what it shows of an import is that of the
last import alone.

## Main definitions

* `QuizOverrides.RunStep` — what is done with a run, and what others do in the meantime.
* `QuizOverrides.ImportRun.step`, `QuizOverrides.ImportRun.steps` — the effect of steps.
* `QuizOverrides.MayImport` — the answers to the steps so far let the run be imported.
* `QuizOverrides.ImportRun.Reflects` — what a run keeps of its last processing.
* `QuizOverrides.CommitReport` — what an import comes to.

## Main results

* `QuizOverrides.ImportRun.Reflects.step`, `QuizOverrides.ImportRun.Reflects.steps` — a run keeps
  nothing else of its processing.
* `QuizOverrides.ImportRun.commit_report` — one import.
* `QuizOverrides.ImportRun.commit_after_steps` — an import after any steps.
-/

namespace QuizOverrides

open QuizOverrides.Action

/-! ### Steps -/

/-- **What is done with a run**: it is processed or imported, or the site changes in the meantime,
in any way whatever. -/
inductive RunStep where
  | process
  | commit
  | change (f : Site → Site)

/-- **What processing comes to**: its result, and the rows that it has produced. -/
structure Processing where
  result : Except ValueFault (Except StorageError Bool)
  rows : List ImportRow

/-- **The answer to a step.** -/
inductive RunAnswer where
  | processed (p : Processing)
  | committed (ok : Bool)
  | changed

/-- The processing that the answer is about, if it is about one. -/
def RunAnswer.processing? : RunAnswer → Option Processing
  | processed p => some p
  | _ => none

/-- **The last processing** that answers are about. -/
def lastProcessing (answers : List RunAnswer) : Option Processing :=
  (answers.filterMap RunAnswer.processing?).getLast?

/-- **The answers let the run be imported**: the last processing has returned true, and none of the
rows that it has produced has an error. -/
def MayImport (answers : List RunAnswer) : Prop :=
  ∃ p, lastProcessing answers = some p ∧ p.result = .ok (.ok true) ∧
    ∀ row ∈ p.rows, row.errors.isEmpty = true

namespace ImportRun

/-- **The effect of a step** on a run, and the answer to it. -/
def step (run : ImportRun) : RunStep → StateM Site (RunAnswer × ImportRun)
  | .process => do
    let (result, run) ← run.processIn
    pure (.processed ⟨result, run.rows⟩, run)
  | .commit => do
    let (ok, run) ← run.commit
    pure (.committed ok, run)
  | .change f => do
    modify f
    pure (.changed, run)

/-- **The effect of steps** one after the other, and the answers to them. -/
def steps (run : ImportRun) : List RunStep → StateM Site (List RunAnswer × ImportRun)
  | [] => pure ([], run)
  | next :: rest => do
    let (answer, run) ← run.step next
    let (answers, run) ← run.steps rest
    pure (answer :: answers, run)

/-! ### What is kept of a processing -/

/-- **What a run keeps of its last processing**, if it has been processed: whether that returned
true, and the rows. -/
structure Reflects (run : ImportRun) (latest : Option Processing) : Prop where
  processed : run.processed = true ↔ ∃ p, latest = some p ∧ p.result = .ok (.ok true)
  rows : ∀ p, latest = some p → run.rows = p.rows

/-- A new run has not been processed. -/
lemma Reflects.new (settings : RunSettings) (table : Csv.Table) :
    Reflects { settings := settings, table := table } none := by
  constructor <;> simp

/-- Whether a run can be imported is a matter of its last processing. -/
lemma Reflects.canImport_iff {run : ImportRun} {latest : Option Processing}
    (h : run.Reflects latest) :
    run.canImport = true ↔ ∃ p, latest = some p ∧ p.result = .ok (.ok true) ∧
      ∀ row ∈ p.rows, row.errors.isEmpty = true := by
  unfold canImport
  rw [Bool.and_eq_true, h.processed, List.all_eq_true]
  constructor
  · rintro ⟨⟨p, hlatest, hresult⟩, herrors⟩
    rw [h.rows p hlatest] at herrors
    exact ⟨p, hlatest, hresult, herrors⟩
  · rintro ⟨p, hlatest, hresult, herrors⟩
    rw [h.rows p hlatest]
    exact ⟨⟨p, hlatest, hresult⟩, herrors⟩

/-- A run has been processed if its processing has returned true, and not if that has returned false
or has been stopped. -/
lemma process_processed (run : ImportRun) (s : Site) :
    (runOn run.process s).1.2.processed = true ↔ (runOn run.process s).1.1 = .ok true := by
  unfold process
  dsimp only
  split
  · simp [cleared]
  · rw [runOn_bind]
    rcases runOn (scanRecords run.cleared.settings 0 run.cleared.table.records) s
      with ⟨⟨found, _ | e⟩, s₁⟩
    · simp
    · simp [cleared]

/-- So it is under any mode. -/
lemma processIn_processed (run : ImportRun) (s : Site) :
    (runOn run.processIn s).1.2.processed = true ↔
      (runOn run.processIn s).1.1 = .ok (.ok true) := by
  unfold processIn
  split
  · simp [cleared]
  · rw [runOn_bind, runOn_pure]
    dsimp only
    rw [process_processed, Except.ok.injEq]

/-- An import keeps what the run has of its processing. -/
lemma commit_keeps (run : ImportRun) (s : Site) :
    (runOn run.commit s).1.2.processed = run.processed ∧
      (runOn run.commit s).1.2.rows = run.rows := by
  unfold commit
  dsimp only
  split_ifs
  · exact ⟨rfl, rfl⟩
  · exact ⟨rfl, rfl⟩
  · rw [runOn_bind]
    rcases runOn (commitChanges (run.rows.map ImportRow.change)).run s with ⟨e | total, s₁⟩
    · exact ⟨rfl, rfl⟩
    · exact ⟨rfl, rfl⟩

/-- **A step** makes the run keep its processing, if it is one, and what it has kept otherwise. -/
theorem Reflects.step {run : ImportRun} {latest : Option Processing} (h : run.Reflects latest)
    (next : RunStep) (s : Site) :
    (runOn (run.step next) s).1.2.Reflects
      ((runOn (run.step next) s).1.1.processing?.or latest) := by
  cases next with
  | process =>
    have hprocessed := run.processIn_processed s
    have hstep : (runOn (run.step .process) s).1 =
        (.processed ⟨(runOn run.processIn s).1.1, (runOn run.processIn s).1.2.rows⟩,
          (runOn run.processIn s).1.2) := rfl
    rw [hstep]
    constructor
    · rw [hprocessed]
      simp [RunAnswer.processing?]
    · intro p hp
      obtain rfl := Option.some.inj hp
      rfl
  | commit =>
    obtain ⟨hprocessed, hrows⟩ := run.commit_keeps s
    exact ⟨hprocessed ▸ h.processed, fun p hp => hrows.trans (h.rows p hp)⟩
  | change f => exact h

/-- Steps are taken one after the other. -/
lemma runOn_steps_cons (run : ImportRun) (next : RunStep) (rest : List RunStep) (s : Site) :
    runOn (run.steps (next :: rest)) s =
      match runOn (run.step next) s with
      | ((answer, run₁), s₁) =>
        match runOn (run₁.steps rest) s₁ with
        | ((answers, run₂), s₂) => ((answer :: answers, run₂), s₂) := rfl

/-- The last processing of answers after an answer. -/
lemma lastProcessing_cons (answer : RunAnswer) (answers : List RunAnswer) :
    lastProcessing (answer :: answers) = (lastProcessing answers).or answer.processing? := by
  unfold lastProcessing
  rw [List.filterMap_cons]
  rcases answer.processing? with _ | p
  · simp
  · rw [List.getLast?_cons]
    cases (answers.filterMap RunAnswer.processing?).getLast? <;> rfl

/-- **After any steps**, a run has kept the last processing among them, or what it had if there is
none.

**Proof sketch.** By induction on the steps. A step puts its own processing in the place of what
has been kept, and the steps after it do the same with that. -/
theorem Reflects.steps {run : ImportRun} {latest : Option Processing} (h : run.Reflects latest)
    (next : List RunStep) (s : Site) :
    (runOn (run.steps next) s).1.2.Reflects
      ((lastProcessing (runOn (run.steps next) s).1.1).or latest) := by
  induction next generalizing run latest s with
  | nil => exact h
  | cons first rest ih =>
    rw [runOn_steps_cons]
    have hfirst := h.step first s
    rcases hanswer : runOn (run.step first) s with ⟨⟨answer, run₁⟩, s₁⟩
    rw [hanswer] at hfirst
    have hrest := ih hfirst s₁
    rcases hanswers : runOn (run₁.steps rest) s₁ with ⟨⟨answers, run₂⟩, s₂⟩
    rw [hanswers] at hrest
    simp only [hanswers]
    rw [lastProcessing_cons, Option.or_assoc]
    exact hrest

end ImportRun

/-! ### Imports -/

/-- **What an import comes to** that is allowed or not: the answer, the run after it and the site
after it. -/
structure CommitReport (allowed : Prop) (s : Site) (ok : Bool) (run : ImportRun) (s' : Site) :
    Prop where
  begins : allowed ↔ s'.transactions = s.transactions + 1
  refused : ¬allowed → ok = false ∧ run.commitError = none ∧ run.summary = none ∧
    ∃ line, s' = { s with logs := s.logs ++ [line] }
  settled : (ok = true ∧ run.commitError = none ∧ ∃ total, run.summary = some total) ∨
    (ok = false ∧ run.summary = none ∧ (allowed → ∃ e, run.commitError = some e))

namespace ImportRun

/-- An import that is refused forgets earlier imports, and says so in a line of the log. -/
lemma runOn_commit_refused {run : ImportRun} (hcan : run.canImport = false) (s : Site) :
    ∃ line, runOn run.commit s =
      ((false, { run with commitError := none, summary := none }),
        { s with logs := s.logs ++ [line] }) := by
  have hforgotten : ¬ (({ run with commitError := none, summary := none } : ImportRun).canImport =
      true) := by
    change ¬ (run.canImport = true)
    rw [hcan]
    decide
  unfold commit
  dsimp only
  split_ifs with hprocessed hcan'
  · exact ⟨_, rfl⟩
  · exact ⟨_, rfl⟩
  · exact absurd (by simpa using hcan') hforgotten

/-- **An import** begins a transaction if the run can be imported, and otherwise does nothing;
either it has succeeded and is counted, or it has not and is not. -/
theorem commit_report (run : ImportRun) (s : Site) :
    CommitReport (run.canImport = true) s (runOn run.commit s).1.1 (runOn run.commit s).1.2
      (runOn run.commit s).2 := by
  rcases hcan : run.canImport
  · obtain ⟨line, hrun⟩ := runOn_commit_refused hcan s
    rw [hrun]
    exact
      { begins := by simp
        refused := fun _ => ⟨rfl, rfl, rfl, line, rfl⟩
        settled := .inr ⟨rfl, rfl, by simp⟩ }
  · have htransactions := commitChanges_transactions (ImportService.changesOf run) s
    obtain ⟨ok, run', s', hrun, hresult⟩ := ImportService.runOn_commit hcan s
    rw [hrun]
    rcases hchanges : runOn (commitChanges (ImportService.changesOf run)).run s
      with ⟨e | total, s₂⟩ <;> simp only [hchanges] at hresult htransactions
    · obtain ⟨rfl, herror, hsummary, line, rfl⟩ := hresult
      exact
        { begins := by simpa using htransactions
          refused := fun h => absurd rfl h
          settled := .inr ⟨rfl, hsummary, fun _ => ⟨_, herror⟩⟩ }
    · obtain ⟨rfl, herror, hsummary, rfl⟩ := hresult
      exact
        { begins := by simpa using htransactions
          refused := fun h => absurd rfl h
          settled := .inl ⟨rfl, herror, total, hsummary⟩ }

/-- **An import after any steps.** Let a new run be processed and imported any number of times, in
any order, with any changes of the site in between and at sites where any faults are waiting. The
run can then be imported if and only if its last processing has returned true and none of the rows
which that has produced has an error. If so, an import begins a transaction; otherwise it writes a
line of the log and nothing else, returns false and keeps neither an error nor a count, whatever
earlier imports have left. Any import returns true with a count and without an error, or returns
false without a count.

**Proof sketch.** Each step keeps its own processing and forgets the one before it, so that after
all of them the run reflects the last processing. An import is judged by that alone, and forgets
earlier imports before it begins. -/
theorem commit_after_steps (settings : RunSettings) (table : Csv.Table) (taken : List RunStep)
    (start : Site) :
    ∃ answers run s,
      runOn (({ settings := settings, table := table } : ImportRun).steps taken) start =
        ((answers, run), s) ∧
      (run.canImport = true ↔ MayImport answers) ∧
      ∃ ok run' s', runOn run.commit s = ((ok, run'), s') ∧
        CommitReport (MayImport answers) s ok run' s' := by
  have hreflects := (Reflects.new settings table).steps taken start
  rcases hsteps : runOn (({ settings := settings, table := table } : ImportRun).steps taken) start
    with ⟨⟨answers, run⟩, s⟩
  rw [hsteps, Option.or_none] at hreflects
  have hmay : run.canImport = true ↔ MayImport answers := hreflects.canImport_iff
  have hreport := run.commit_report s
  rw [hmay] at hreport
  exact ⟨answers, run, s, rfl, hmay, _, _, _, rfl, hreport⟩

end ImportRun

end QuizOverrides
