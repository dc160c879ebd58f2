import QuizOverrides.Proofs.Assessment

set_option autoImplicit false

/-!
# What a run comes to

A run that passes the check of its header has the rows that are listed for the records of its table,
with the duplicates among them marked. Marking only adds errors, so a run without errors has the
listed rows themselves, and no two of them are about the same subject.

## Main definitions

* `QuizOverrides.FirstAbout` — the first row about a subject.
* `QuizOverrides.Marked`, `QuizOverrides.MarkedAmong` — what marking makes of the rows of a list.
* `QuizOverrides.RunSettings.ofQuiz` — the settings of a run for a quiz.
* `QuizOverrides.Site.Passes` — the run that a table comes to at a site.

## Main results

* `QuizOverrides.mem_markFrom` — each row is marked by the first row about its subject.
* `QuizOverrides.markFrom_of_errorless` — among rows without errors nothing has been marked.
* `QuizOverrides.runTable_returns` — what a run that is returned has been through.
* `QuizOverrides.Site.Passes.rows_eq_of_pinned` — a later run with the passwords of an earlier one
  has the same rows.
-/

namespace QuizOverrides

open QuizOverrides.Action

/-! ### Duplicates -/

/-- Marking changes nothing but errors about subjects. -/
lemma markFrom_map {β : Type} (f : ImportRow → β) (hf : ∀ row e, f (row.withSubjectError e) = f row)
    (seen : List (String × Nat)) (rows : List ImportRow) :
    (markFrom seen rows).map f = rows.map f := by
  induction rows generalizing seen with
  | nil => rfl
  | cons row rest ih =>
    unfold markFrom
    split
    · simp [ih]
    · split <;> simp [ih, hf]

/-- **Among rows without errors nothing has been marked**, and the subjects of the rows are all
different. -/
theorem markFrom_of_errorless {seen : List (String × Nat)} {rows : List ImportRow}
    (h : ∀ row ∈ markFrom seen rows, row.errors.isEmpty = true) :
    markFrom seen rows = rows ∧ (rows.filterMap ImportRow.knownSubject).Nodup ∧
      ∀ x ∈ rows.filterMap ImportRow.knownSubject, seen.lookup x = none := by
  induction rows generalizing seen with
  | nil => simp [markFrom]
  | cons row rest ih =>
    unfold markFrom at h ⊢
    rcases hknown : row.knownSubject with _ | subject <;> simp only [hknown] at h ⊢
    · obtain ⟨heq, hnodup, hseen⟩ := ih fun r hr => h r (List.mem_cons_of_mem _ hr)
      simp only [List.filterMap_cons, hknown, heq]
      exact ⟨trivial, hnodup, hseen⟩
    · rcases hfirst : seen.lookup subject with _ | first <;> simp only [hfirst] at h ⊢
      · obtain ⟨heq, hnodup, hseen⟩ := ih fun r hr => h r (List.mem_cons_of_mem _ hr)
        simp only [List.filterMap_cons, hknown, heq]
        -- a later row about `subject` would have found it among the subjects seen
        have hnew : subject ∉ rest.filterMap ImportRow.knownSubject := fun hmem => by
          simpa using hseen subject hmem
        refine ⟨trivial, List.nodup_cons.mpr ⟨hnew, hnodup⟩, fun x hx => ?_⟩
        rcases List.mem_cons.mp hx with rfl | hx
        · exact hfirst
        · have hne : x ≠ subject := fun h => hnew (h ▸ hx)
          simpa [List.lookup_cons, beq_eq_false_iff_ne.mpr hne] using hseen x hx
      · have := h _ List.mem_cons_self
        simp [ImportRow.withSubjectError, FieldErrors.isEmpty] at this

/-- Rows without errors that marking has left are the rows that were to be marked. -/
lemma rows_of_markDuplicates {rows marked : List ImportRow} (h : marked = markDuplicates rows)
    (herrors : ∀ row ∈ marked, row.errors.isEmpty = true) :
    marked = rows ∧ (∀ row ∈ marked, row.errors.isEmpty = true) ∧
      (marked.filterMap ImportRow.knownSubject).Nodup := by
  subst h
  obtain ⟨heq, hnodup, -⟩ := markFrom_of_errorless herrors
  refine ⟨heq, herrors, ?_⟩
  rw [show markDuplicates rows = rows from heq]
  exact hnodup

/-- Among rows about different subjects there is nothing to mark. -/
lemma markFrom_of_nodup {seen : List (String × Nat)} {rows : List ImportRow}
    (hnodup : (rows.filterMap ImportRow.knownSubject).Nodup)
    (hseen : ∀ x ∈ rows.filterMap ImportRow.knownSubject, seen.lookup x = none) :
    markFrom seen rows = rows := by
  induction rows generalizing seen with
  | nil => rfl
  | cons row rest ih =>
    unfold markFrom
    rcases hknown : row.knownSubject with _ | subject
    · rw [List.filterMap_cons_none hknown] at hnodup hseen
      rw [ih hnodup hseen]
    · rw [List.filterMap_cons_some hknown] at hnodup hseen
      obtain ⟨hnew, hnodup⟩ := List.nodup_cons.mp hnodup
      simp only [hseen subject List.mem_cons_self]
      rw [ih hnodup fun x hx => ?_]
      have hne : x ≠ subject := fun h => hnew (h ▸ hx)
      rw [List.lookup_cons, beq_eq_false_iff_ne.mpr hne]
      exact hseen x (List.mem_cons_of_mem _ hx)

/-- **The first row about a subject** has the given number. -/
structure FirstAbout (about : ImportRow → Option String) (rows : List ImportRow) (x : String)
    (first : Nat) : Prop where
  listed : ∃ row ∈ rows, row.number = first ∧ about row = some x
  least : ∀ row ∈ rows, about row = some x → first ≤ row.number

/-- **What marking makes of a row** among all: it leaves it as it is if its subject is not known or
if no earlier row is about it, and names the first row about its subject otherwise. -/
inductive Marked (all : List ImportRow) (row : ImportRow) : ImportRow → Prop where
  | unknown (hknown : row.knownSubject = none) : Marked all row row
  | first {x : String} (hknown : row.knownSubject = some x)
      (hfirst : FirstAbout ImportRow.knownSubject all x row.number) : Marked all row row
  | again {x : String} {first : Nat} (hknown : row.knownSubject = some x)
      (hfirst : FirstAbout ImportRow.knownSubject all x first) (hlt : first < row.number) :
      Marked all row (row.withSubjectError (.duplicate x first))

/-- **What has been seen** of all rows when only `rest` are left: the first row of each subject, and
every subject that a row before `rest` is about. -/
structure SeenAmong (all rest : List ImportRow) (seen : List (String × Nat)) : Prop where
  found : ∀ x first, seen.lookup x = some first →
    FirstAbout ImportRow.knownSubject all x first ∧ ∀ row ∈ rest, first < row.number
  missing : ∀ x, seen.lookup x = none → ∀ row ∈ all, row.knownSubject = some x → row ∈ rest

/-- At the start nothing has been seen. -/
lemma SeenAmong.nil (rows : List ImportRow) : SeenAmong rows rows [] where
  found := by simp
  missing := fun _ _ row hrow _ => hrow

section

variable {all rest : List ImportRow} {row : ImportRow} {seen : List (String × Nat)}

/-- A row whose subject is not known, or has been seen, adds nothing. -/
lemma SeenAmong.tail (h : SeenAmong all (row :: rest) seen)
    (hrow : ∀ x, row.knownSubject = some x → seen.lookup x ≠ none) : SeenAmong all rest seen where
  found := by
    intro x first hx
    obtain ⟨hfirst, hlt⟩ := h.found x first hx
    exact ⟨hfirst, fun r hr => hlt r (List.mem_cons_of_mem _ hr)⟩
  missing := by
    intro x hx r hr hknown
    rcases List.mem_cons.mp (h.missing x hx r hr hknown) with rfl | hr
    · exact absurd hx (hrow x hknown)
    · exact hr

/-- A row about a subject that has not been seen is the first about it. -/
lemma SeenAmong.firstAbout (h : SeenAmong all (row :: rest) seen) (hmem : row ∈ all) {x : String}
    (hknown : row.knownSubject = some x) (hx : seen.lookup x = none)
    (hlt : ∀ r ∈ rest, row.number < r.number) :
    FirstAbout ImportRow.knownSubject all x row.number where
  listed := ⟨row, hmem, rfl, hknown⟩
  least := by
    intro r hr hknown'
    rcases List.mem_cons.mp (h.missing x hx r hr hknown') with rfl | hr
    · exact Nat.le_refl _
    · exact Nat.le_of_lt (hlt r hr)

/-- A row about a subject that has not been seen is to be remembered. -/
lemma SeenAmong.cons (h : SeenAmong all (row :: rest) seen) {x : String}
    (hknown : row.knownSubject = some x)
    (hfirst : FirstAbout ImportRow.knownSubject all x row.number)
    (hlt : ∀ r ∈ rest, row.number < r.number) : SeenAmong all rest ((x, row.number) :: seen) where
  found := by
    intro y first hy
    rw [List.lookup_cons] at hy
    split at hy
    · rename_i hsame
      obtain rfl := beq_iff_eq.mp hsame
      obtain rfl := Option.some.inj hy
      exact ⟨hfirst, hlt⟩
    · obtain ⟨hfirst', hlt'⟩ := h.found y first hy
      exact ⟨hfirst', fun r hr => hlt' r (List.mem_cons_of_mem _ hr)⟩
  missing := by
    intro y hy r hr hknown'
    rw [List.lookup_cons] at hy
    split at hy
    · cases hy
    · rename_i hother
      rcases List.mem_cons.mp (h.missing y hy r hr hknown') with rfl | hr
      · rw [hknown] at hknown'
        exact absurd (Option.some.inj hknown'.symm) (beq_eq_false_iff_ne.mp hother)
      · exact hr

end

/-- **What marking makes of rows** that are numbered in order, by what has been seen before them.

**Proof sketch.** By induction on the rows. A row about a subject that has been seen is told the
first row about it; any other is left as it is, and is remembered if it is about a subject. -/
theorem mem_markFrom {all rows : List ImportRow} {seen : List (String × Nat)}
    (hsorted : rows.Pairwise fun r r' => r.number < r'.number) (hall : ∀ r ∈ rows, r ∈ all)
    (hseen : SeenAmong all rows seen) {row' : ImportRow} (h : row' ∈ markFrom seen rows) :
    ∃ row ∈ rows, Marked all row row' := by
  induction rows generalizing seen with
  | nil => simp [markFrom] at h
  | cons row rest ih =>
    obtain ⟨hlt, hsorted⟩ := List.pairwise_cons.mp hsorted
    have ih {seen} (hseen : SeenAmong all rest seen) (h : row' ∈ markFrom seen rest) :
        ∃ r ∈ row :: rest, Marked all r row' := by
      obtain ⟨r, hr, hmarked⟩ := ih hsorted (fun r hr => hall r (List.mem_cons_of_mem _ hr)) hseen h
      exact ⟨r, List.mem_cons_of_mem _ hr, hmarked⟩
    unfold markFrom at h
    rcases hknown : row.knownSubject with _ | x <;> simp only [hknown] at h
    · rcases List.mem_cons.mp h with rfl | h
      · exact ⟨row', List.mem_cons_self, .unknown hknown⟩
      · exact ih (hseen.tail (by simp [hknown])) h
    · rcases hlookup : seen.lookup x with _ | first <;> simp only [hlookup] at h
      · have hfirst := hseen.firstAbout (hall row List.mem_cons_self) hknown hlookup hlt
        rcases List.mem_cons.mp h with rfl | h
        · exact ⟨row', List.mem_cons_self, .first hknown hfirst⟩
        · exact ih (hseen.cons hknown hfirst hlt) h
      · rcases List.mem_cons.mp h with rfl | h
        · obtain ⟨hfirst, hlt'⟩ := hseen.found x first hlookup
          exact ⟨row, List.mem_cons_self, .again hknown hfirst (hlt' row List.mem_cons_self)⟩
        · refine ih (hseen.tail fun y hy => ?_) h
          obtain rfl := Option.some.inj (hknown.symm.trans hy)
          rw [hlookup]
          exact Option.some_ne_none first

/-- **What the rows of a run are**: each of them is what marking has made of a listed row. -/
lemma marked_of_mem {rows : List ImportRow} {row' : ImportRow}
    (hsorted : rows.Pairwise fun r r' => r.number < r'.number) (h : row' ∈ markDuplicates rows) :
    ∃ row ∈ rows, Marked rows row row' :=
  mem_markFrom hsorted (fun _ hr => hr) (.nil rows) h

/-- A row that is one of `rows`, or one of them marked as a duplicate of an earlier row of `all`. -/
def MarkedAmong (all rows : List ImportRow) (row' : ImportRow) : Prop :=
  row' ∈ rows ∨ ∃ row ∈ rows, ∃ e ∈ all, ∃ x, e.number < row.number ∧ e.knownSubject = some x ∧
    row.knownSubject = some x ∧ row' = row.withSubjectError (.duplicate x e.number)

/-- The same, for a use that does not ask for the first of the earlier rows. -/
lemma mem_markDuplicates {rows : List ImportRow} {row' : ImportRow}
    (hsorted : rows.Pairwise fun r r' => r.number < r'.number) (h : row' ∈ markDuplicates rows) :
    MarkedAmong rows rows row' := by
  obtain ⟨row, hrow, hmarked⟩ := marked_of_mem hsorted h
  cases hmarked with
  | unknown => exact .inl hrow
  | first => exact .inl hrow
  | again hknown hfirst hlt =>
    obtain ⟨e, he, rfl, hsame⟩ := hfirst.listed
    exact .inr ⟨row, hrow, e, he, _, hlt, hsame, hknown, rfl⟩

/-! ### Processing -/

/-- The settings of a run for a quiz. -/
def RunSettings.ofQuiz (mode : Mode) (quiz : Quiz) (pinned : RowPasswords) : RunSettings :=
  ⟨mode, ⟨.given quiz.id, .given quiz.courseId⟩, pinned⟩

/-- The header of a table is accepted under a mode. -/
def Mode.Accepts (mode : Mode) (columns : List String) : Prop :=
  mode.headerFault? columns = none ∧ checkHeader mode columns = none

/-- **The run that a table comes to** at a site, once its header has been accepted. -/
structure Site.Passes (s : Site) (table : Csv.Table) (mode : Mode) (quiz : Quiz)
    (pinned : RowPasswords) (run : ImportRun) : Prop where
  accepted : mode.Accepts table.columns
  settings : run.settings = .ofQuiz mode quiz pinned
  processed : run.processed = true
  listed : ∃ rows, s.Lists (.ofQuiz mode quiz pinned) 0 table.records rows ∧
    run.rows = markDuplicates rows

/-- What a table comes to depends on the records of the site only. -/
lemma Site.Passes.congr {s s' : Site} {table : Csv.Table} {mode : Mode} {quiz : Quiz}
    {pinned : RowPasswords} {run : ImportRun} (h : s'.Passes table mode quiz pinned run)
    (hs : s'.records = s.records) : s.Passes table mode quiz pinned run where
  accepted := h.accepted
  settings := h.settings
  processed := h.processed
  listed := by
    obtain ⟨rows, hlists, hrows⟩ := h.listed
    exact ⟨rows, hlists.congr hs, hrows⟩

namespace ImportRun

/-- The processing of a run leaves alone what logs and the scan of the records do. -/
lemma process_frames_of {γ : Type} {π : Site → γ} (hlog : ∀ line, Frames π (logLine line))
    {run : ImportRun} (hscan : Frames π (scanRecords run.settings 0 run.table.records)) :
    Frames π run.process := by
  unfold process
  dsimp only
  split
  · exact .bind (hlog _) fun _ => .pure _
  · refine .bind hscan fun scanned => ?_
    rcases scanned with ⟨found, _ | e⟩
    · exact .bind (hlog _) fun _ => .pure _
    · exact .pure _

/-- A run whose header is accepted, and that no storage error stops, has the listed rows. -/
lemma process_accepts {run run' : ImportRun} {s s' : Site}
    (h : runOn run.process s = ((.ok true, run'), s')) :
    (checkHeader run.settings.mode run.table.columns = none ∧ run'.headerError = none) ∧
      run'.settings = run.settings ∧ run'.processed = true ∧
      ∃ rows, s.Lists run.settings 0 run.table.records rows ∧ run'.rows = markDuplicates rows := by
  unfold process at h
  dsimp only at h
  split at h
  · simp at h
  · rename_i hheader
    rw [runOn_bind] at h
    rcases hscan : runOn (scanRecords run.cleared.settings 0 run.cleared.table.records) s
      with ⟨⟨found, _ | e⟩, s₁⟩
    · simp only [hscan, runOn_bind, runOn_pure, Prod.mk.injEq] at h
      obtain ⟨⟨-, rfl⟩, -⟩ := h
      exact ⟨⟨hheader, rfl⟩, rfl, rfl, found, scanRecords_lists _ _ _ hscan, rfl⟩
    · simp [hscan] at h

/-- A run whose header is accepted is not stopped if its scan is not. -/
lemma process_of_scan {run : ImportRun} {s s₁ : Site} {rows : List ImportRow}
    (hheader : checkHeader run.settings.mode run.table.columns = none)
    (hscan : runOn (scanRecords run.settings 0 run.table.records) s = ((rows, none), s₁)) :
    ∃ run' s', runOn run.process s = ((.ok true, run'), s') ∧ s'.faults = s₁.faults := by
  have hcleared : checkHeader run.cleared.settings.mode run.cleared.table.columns = none := hheader
  unfold process
  simp only [hcleared, runOn_bind]
  rw [show runOn (scanRecords run.cleared.settings 0 run.cleared.table.records) s = _ from hscan]
  exact ⟨_, _, rfl, rfl⟩

/-- Without faults a run whose header is accepted is not stopped. -/
lemma process_quiet (run : ImportRun) {s : Site} (hs : s.faults = [])
    (hheader : checkHeader run.settings.mode run.table.columns = none) :
    ∃ run' s', runOn run.process s = ((.ok true, run'), s') ∧ s'.faults = [] := by
  obtain ⟨rows, s₁, hscan, hs₁⟩ := scanRecords_quiet run.settings 0 run.table.records hs
  obtain ⟨run', s', hrun, hs'⟩ := process_of_scan hheader hscan
  exact ⟨run', s', hrun, hs'.trans hs₁⟩

/-- A run that can be imported has been accepted, and its scan has not been stopped. -/
lemma accepted_of_canImport {run : ImportRun} {s : Site}
    (hcan : (runOn run.process s).1.2.canImport = true) :
    (runOn run.process s).1.1 = .ok true ∧
      checkHeader run.settings.mode run.table.columns = none ∧
      (runOn (scanRecords run.settings 0 run.table.records) s).1.2 = none := by
  unfold process at hcan ⊢
  rcases hheader : checkHeader run.cleared.settings.mode run.cleared.table.columns with _ | e
  · simp only [hheader, runOn_bind] at hcan ⊢
    rcases hscan : runOn (scanRecords run.cleared.settings 0 run.cleared.table.records) s
      with ⟨⟨found, _ | e⟩, s₁⟩
    · refine ⟨rfl, hheader, ?_⟩
      rw [show runOn (scanRecords run.settings 0 run.table.records) s = _ from hscan]
    · simp only [hscan] at hcan
      exact absurd hcan Bool.false_ne_true
  · simp only [hheader] at hcan
    exact absurd hcan Bool.false_ne_true

/-- A mode that has a header is processed like any other. -/
lemma runOn_processIn {run run' : ImportRun} {s s' : Site} {result : Except StorageError Bool}
    (hfault : run.settings.mode.headerFault? run.table.columns = none)
    (h : runOn run.process s = ((result, run'), s')) :
    runOn run.processIn s = ((.ok result, run'), s') := by
  unfold processIn
  rw [hfault]
  dsimp only
  rw [runOn_bind, h, runOn_pure]

/-- A run whose header can be checked is processed under a mode that has one. -/
lemma processIn_accepts {run run' : ImportRun} {s s' : Site} {result : Except StorageError Bool}
    (h : runOn run.processIn s = ((.ok result, run'), s')) :
    run.settings.mode.headerFault? run.table.columns = none ∧
      runOn run.process s = ((result, run'), s') := by
  unfold processIn at h
  split at h
  · simp at h
  · rename_i hfault
    simp only [runOn_bind, runOn_pure, Prod.mk.injEq, Except.ok.injEq] at h
    obtain ⟨⟨hok, hrun⟩, hsite⟩ := h
    exact ⟨hfault, Prod.ext (Prod.ext hok hrun) hsite⟩

/-- What a run that is accepted comes to. -/
lemma passes_of_processIn {table : Csv.Table} {mode : Mode} {quiz : Quiz} {pinned : RowPasswords}
    {run' : ImportRun} {s s' : Site}
    (h : runOn ({ settings := .ofQuiz mode quiz pinned, table := table } : ImportRun).processIn s =
      ((.ok (.ok true), run'), s')) : s.Passes table mode quiz pinned run' := by
  obtain ⟨hfault, hprocess⟩ := processIn_accepts h
  obtain ⟨⟨hheader, -⟩, hsettings, hprocessed, hrows⟩ := process_accepts hprocess
  exact ⟨⟨hfault, hheader⟩, hsettings, hprocessed, hrows⟩

/-- **The rows of an accepted run that can be imported** are the listed ones, have no errors and are
about different subjects. -/
lemma rows_of_canImport {run run' : ImportRun} {s s' : Site}
    (h : runOn run.process s = ((.ok true, run'), s')) (hcan : run'.canImport = true) :
    s.Lists run.settings 0 run.table.records run'.rows ∧
      (∀ row ∈ run'.rows, row.errors.isEmpty = true) ∧
      (run'.rows.filterMap ImportRow.knownSubject).Nodup := by
  obtain ⟨-, -, -, rows, hlists, hrows⟩ := process_accepts h
  obtain ⟨heq, herrors, hnodup⟩ := rows_of_markDuplicates hrows
    (List.all_eq_true.mp (Bool.and_eq_true_iff.mp hcan).2)
  exact ⟨heq ▸ hlists, herrors, hnodup⟩

end ImportRun

namespace ImportService

/-- Reading a value of the form leaves the site alone. -/
lemma usable_frames {α γ : Type} {π : Site → γ} (e : Except ValueFault α) :
    Frames π (usable e).run := by
  rcases e with fault | a <;> exact fun _ => rfl

/-- A value of the form is returned if it is usable. -/
@[simp] lemma returns_usable {α : Type} {e : Except ValueFault α} {s s' : Site} {a : α} :
    (usable e).Returns s a s' ↔ e = .ok a ∧ s = s' := by
  rcases e with fault | b <;> simp [usable]

/-- A run over a table leaves alone what logs and the scan of the records do. -/
lemma runTable_frames_of {γ : Type} {π : Site → γ} (hlog : ∀ line, Frames π (logLine line))
    {table : Csv.Table} {mode : Mode} {quiz : Quiz} {pinned : RowPasswords}
    (hscan : Frames π (scanRecords (.ofQuiz mode quiz pinned) 0 table.records)) :
    Frames π (runTable table mode quiz pinned).run := by
  unfold runTable
  refine .run_bind (.lift ?_) fun processed => ?_
  · unfold ImportRun.processIn
    dsimp only
    split
    · exact .pure _
    · exact .bind (ImportRun.process_frames_of hlog hscan) fun _ => .pure _
  · refine .run_bind (usable_frames _) fun outcome => ?_
    rcases outcome with e | _ | _ <;> exact fun _ => rfl

/-- A run with its report changes no record of the site. -/
lemma runTable_frames (table : Csv.Table) (mode : Mode) (quiz : Quiz) (pinned : RowPasswords) :
    Frames Site.records (runTable table mode quiz pinned).run :=
  runTable_frames_of logLine_frames (scanRecords_frames _ _ _)

/-- **A run that is returned** has passed the check of its header and has been processed. -/
theorem runTable_returns {table : Csv.Table} {mode : Mode} {quiz : Quiz} {pinned : RowPasswords}
    {s s' : Site} {run : ImportRun} (h : (runTable table mode quiz pinned).Returns s run s') :
    s.Passes table mode quiz pinned run := by
  unfold runTable at h
  obtain ⟨⟨outcome, run₁⟩, s₁, hprocess, h⟩ := returns_bind.mp h
  obtain ⟨result, s₂, hresult, h⟩ := returns_bind.mp h
  obtain ⟨rfl, rfl⟩ := returns_usable.mp hresult
  rcases result with e | _ | _ <;> simp at h
  obtain ⟨rfl, rfl⟩ := h
  exact ImportRun.passes_of_processIn (returns_lift.mp hprocess)

/-- Without faults a run over a table with an accepted header is returned. -/
lemma runTable_quiet {table : Csv.Table} {mode : Mode} (quiz : Quiz) (pinned : RowPasswords)
    (haccepted : mode.Accepts table.columns) {s : Site} (hs : s.faults = []) :
    ∃ run s', (runTable table mode quiz pinned).Returns s run s' ∧ s'.faults = [] := by
  obtain ⟨run', s₁, hrun, hs₁⟩ := ImportRun.process_quiet
    { settings := .ofQuiz mode quiz pinned, table := table } hs haccepted.2
  refine ⟨run', s₁, ?_, hs₁⟩
  unfold runTable
  refine returns_bind.mpr
    ⟨_, s₁, returns_lift.mpr (ImportRun.runOn_processIn haccepted.1 hrun), ?_⟩
  exact returns_bind.mpr ⟨_, s₁, returns_usable.mpr ⟨rfl, rfl⟩, returns_pure.mpr ⟨rfl, rfl⟩⟩

end ImportService

/-! ### Runs without errors -/

/-- **The rows of a run that can be imported** are the listed ones, have no errors and are about
different subjects. -/
theorem Site.Passes.rows_of_canImport {s : Site} {table : Csv.Table} {mode : Mode} {quiz : Quiz}
    {pinned : RowPasswords} {run : ImportRun} (h : s.Passes table mode quiz pinned run)
    (hcan : run.canImport = true) :
    s.Lists (.ofQuiz mode quiz pinned) 0 table.records run.rows ∧
      (∀ row ∈ run.rows, row.errors.isEmpty = true) ∧
      (run.rows.filterMap ImportRow.knownSubject).Nodup := by
  obtain ⟨rows, hlists, hrows⟩ := h.listed
  obtain ⟨heq, herrors, hnodup⟩ := rows_of_markDuplicates hrows
    (List.all_eq_true.mp (Bool.and_eq_true_iff.mp hcan).2)
  exact ⟨heq ▸ hlists, herrors, hnodup⟩

/-- The rows of a run are numbered in order. -/
lemma Site.Passes.sorted {s : Site} {table : Csv.Table} {mode : Mode} {quiz : Quiz}
    {pinned : RowPasswords} {run : ImportRun} (h : s.Passes table mode quiz pinned run) :
    run.rows.Pairwise fun row row' => row.number < row'.number := by
  obtain ⟨rows, hlists, hrows⟩ := h.listed
  have hsorted : (rows.map ImportRow.number).Pairwise (· < ·) :=
    List.pairwise_map.mpr hlists.sorted
  rw [← markFrom_map ImportRow.number (fun _ _ => rfl) [] rows, ← markDuplicates,
    ← hrows] at hsorted
  exact List.pairwise_map.mp hsorted

/-! ### Pinned passwords -/

/-- What a row adds to the generated passwords. -/
def ImportRow.passwordEntry (row : ImportRow) : Option (Nat × String) :=
  if row.generated then row.draft.data.values.password.map fun p => (row.number, p) else none

/-- A row adds to the generated passwords under its own number. -/
lemma ImportRow.fst_of_passwordEntry {row : ImportRow} {entry : Nat × String}
    (h : row.passwordEntry = some entry) : entry.1 = row.number := by
  unfold passwordEntry at h
  split at h
  · obtain ⟨p, -, rfl⟩ := Option.map_eq_some_iff.mp h
    rfl
  · simp at h

/-- Under the number of a row with a generated password stands that password. -/
lemma lookup_passwordEntries {rows : List ImportRow}
    (hsorted : rows.Pairwise fun r r' => r.number < r'.number) {row : ImportRow}
    (hrow : row ∈ rows) (hgenerated : row.generated = true) :
    (rows.filterMap ImportRow.passwordEntry).lookup row.number =
      row.draft.data.values.password := by
  induction rows with
  | nil => simp at hrow
  | cons first rest ih =>
    obtain ⟨hfirst, hrest⟩ := List.pairwise_cons.mp hsorted
    rcases List.mem_cons.mp hrow with rfl | hmem
    · rcases hpassword : row.draft.data.values.password with _ | p
      · have hentry : row.passwordEntry = none := by
          simp [ImportRow.passwordEntry, hgenerated, hpassword]
        rw [List.filterMap_cons_none hentry]
        refine List.lookup_eq_none_iff.mpr fun entry hentry => ?_
        obtain ⟨r, hr, hentry⟩ := List.mem_filterMap.mp hentry
        have hlt := hfirst r hr
        rw [← ImportRow.fst_of_passwordEntry hentry] at hlt
        simpa using Nat.ne_of_lt hlt
      · have hentry : row.passwordEntry = some (row.number, p) := by
          simp [ImportRow.passwordEntry, hgenerated, hpassword]
        rw [List.filterMap_cons_some hentry, List.lookup_cons_self]
    · have hlt := hfirst row hmem
      rcases hentry : first.passwordEntry with _ | entry
      · rw [List.filterMap_cons_none hentry, ih hrest hmem]
      · have hne : (row.number == entry.1) = false := by
          rw [ImportRow.fst_of_passwordEntry hentry]
          exact beq_eq_false_iff_ne.mpr (by omega)
        rw [List.filterMap_cons_some hentry, ← ih hrest hmem, List.lookup_cons, hne]

/-- The passwords that a run has generated are those of the listed rows. -/
lemma generatedPasswords_eq {run : ImportRun} {rows : List ImportRow}
    (hrows : run.rows = markDuplicates rows) :
    run.generatedPasswords = rows.filterMap ImportRow.passwordEntry :=
  calc run.rows.filterMap ImportRow.passwordEntry
      = (run.rows.map ImportRow.passwordEntry).filterMap id := by rw [List.filterMap_map]; rfl
    _ = (rows.map ImportRow.passwordEntry).filterMap id := by
      rw [hrows, markDuplicates, markFrom_map ImportRow.passwordEntry fun _ _ => rfl]
    _ = rows.filterMap ImportRow.passwordEntry := by rw [List.filterMap_map]; rfl

/-- Under the number of a row stands the password that the run has generated for it. -/
lemma Site.Lists.lookup_generatedPasswords {s : Site} {st : RunSettings} {number : Nat}
    {records : List (List String)} {run : ImportRun} {rows : List ImportRow}
    (hlists : s.Lists st number records rows) (hrows : run.rows = markDuplicates rows)
    {row : ImportRow} (hrow : row ∈ rows) (hgenerated : row.generated = true) :
    run.generatedPasswords.lookup row.number = row.draft.data.values.password := by
  rw [generatedPasswords_eq hrows]
  exact lookup_passwordEntries hlists.sorted hrow hgenerated

/-- **A later run with the passwords of an earlier one** has the same rows, if the cells of the
records and the overrides that they are about are found again. -/
theorem Site.Passes.rows_eq_of_pinned {s t : Site} {table : Csv.Table} {mode : Mode} {quiz : Quiz}
    {run run' : ImportRun} (h : s.Passes table mode quiz [] run)
    (hrow : t.rowOf (.ofQuiz mode quiz []) = s.rowOf (.ofQuiz mode quiz []))
    (howned : t.ownedBy (.ofQuiz mode quiz []) = s.ownedBy (.ofQuiz mode quiz []))
    (h' : t.Passes table mode quiz run.generatedPasswords run') : run'.rows = run.rows := by
  obtain ⟨rows, hlists, hrows⟩ := h.listed
  obtain ⟨rows', hlists', hrows'⟩ := h'.listed
  have heq : rows' = rows := hlists.eq_of_pinned hrow howned
    (fun row hmem => hlists.lookup_generatedPasswords hrows hmem) hlists'
  rw [hrows, hrows', heq]

end QuizOverrides
