import QuizOverrides.Proofs.BatchSteps

set_option autoImplicit false

/-!
# What computations do not see

Two runs of one computation, from sites that are alike, are compared. If sites are alike in all that
requests for a quiz look at, such a request is answered alike on both of them and leaves sites that
are alike again. The relation that says which sites are alike is called a veil, for it may hide
anything else.

## Main definitions

* `QuizOverrides.Alike` — the runs of a computation on two sites agree.
* `QuizOverrides.Blind` — the runs of a computation agree on all sites that are alike.
* `QuizOverrides.Veil` — a relation between sites that hides nothing that requests for a quiz see.
* `QuizOverrides.Kept` — a site that satisfies an invariant, as a relation between sites.

## Main results

* `QuizOverrides.Veil.of_writes` — what a relation has to satisfy to be a veil.
* `QuizOverrides.Veil.scanRecords` — records are scanned alike.
* `QuizOverrides.Veil.event` — an event that makes a request for the quiz has the same outcome.
* `QuizOverrides.Veil.of_invariant` — what each operation keeps is kept by requests.
-/

namespace QuizOverrides

open QuizOverrides.Action

variable {ε ε' α β γ : Type} {R : Site → Site → Prop} {s t : Site}

/-! ### Two runs -/

/-- **The runs of a computation on two sites agree**: they come to the same value, and the sites
that they leave are related again. -/
structure Alike (R : Site → Site → Prop) (x : StateM Site α) (s t : Site) : Prop where
  value : (runOn x s).1 = (runOn x t).1
  sites : R (runOn x s).2 (runOn x t).2

/-- **A computation is blind** to what tells related sites apart. -/
structure Blind (R : Site → Site → Prop) (x : StateM Site α) : Prop where
  alike : ∀ s t, R s t → Alike R x s t

namespace Alike

/-- The second of two computations may depend on the value of the first and on where it was reached.
-/
lemma bind {x : StateM Site α} {f : α → StateM Site β} (hx : Alike R x s t)
    (hf : ∀ a s' t', runOn x s = (a, s') → runOn x t = (a, t') → R s' t' → Alike R (f a) s' t') :
    Alike R (x >>= f) s t := by
  obtain ⟨hvalue, hsites⟩ := hx
  have hrest := hf (runOn x s).1 (runOn x s).2 (runOn x t).2 rfl (by rw [hvalue]) hsites
  exact ⟨by rw [runOn_bind, runOn_bind, ← hvalue]; exact hrest.value,
    by rw [runOn_bind, runOn_bind, ← hvalue]; exact hrest.sites⟩

/-- The second of two actions is run where the first has returned. -/
lemma run_bind {act : Action ε α} {f : α → Action ε β} (hact : Alike R act.run s t)
    (hf : ∀ a s' t', act.Returns s a s' → act.Returns t a t' → R s' t' →
      Alike R (f a).run s' t') :
    Alike R (ExceptT.run (act >>= f)) s t := by
  refine Alike.bind (f := ExceptT.bindCont f) hact fun r s' t' hs ht hsites => ?_
  rcases r with e | a
  · exact ⟨rfl, hsites⟩
  · exact hf a s' t' hs ht hsites

end Alike

namespace Blind

/-- Returning a value tells no sites apart. -/
lemma pure (a : α) : Blind R (pure a : StateM Site α) := ⟨fun _ _ h => ⟨rfl, h⟩⟩

/-- Nothing that comes after an error is run. -/
lemma throw_bind (e : ε) (f : α → Action ε β) : Blind R (ExceptT.run (throw e >>= f)) :=
  ⟨fun _ _ h => ⟨rfl, h⟩⟩

/-- Throwing an error tells no sites apart. -/
lemma throw (e : ε) : Blind R (ExceptT.run (throw e : Action ε α)) := ⟨fun _ _ h => ⟨rfl, h⟩⟩

/-- A sequence tells no sites apart if its parts do not. -/
lemma bind {x : StateM Site α} {f : α → StateM Site β} (hx : Blind R x)
    (hf : ∀ a, Blind R (f a)) : Blind R (x >>= f) where
  alike s t h := (hx.alike s t h).bind fun a s' t' _ _ hsites => (hf a).alike s' t' hsites

/-- A sequence that may fail tells no sites apart if its parts do not. -/
lemma run_bind {act : Action ε α} {f : α → Action ε β} (hact : Blind R act.run)
    (hf : ∀ a, Blind R (f a).run) : Blind R (ExceptT.run (act >>= f)) where
  alike s t h := (hact.alike s t h).run_bind fun a s' t' _ _ hsites => (hf a).alike s' t' hsites

/-- Mapping what is returned tells no sites apart. -/
lemma map (f : α → β) {x : StateM Site α} (hx : Blind R x) : Blind R (f <$> x) where
  alike s t h := ⟨congrArg f (hx.alike s t h).value, (hx.alike s t h).sites⟩

/-- Renaming errors tells no sites apart. -/
lemma mapError (f : ε → ε') {act : Action ε α} (hact : Blind R act.run) :
    Blind R (act.mapError f).run where
  alike s t h := by
    obtain ⟨hvalue, hsites⟩ := hact.alike s t h
    constructor <;> rw [runOn_run_mapError, runOn_run_mapError]
    · exact congrArg (Except.mapError f) hvalue
    · exact hsites

/-- What cannot fail tells no sites apart as an action that may. -/
lemma lift {x : StateM Site α} (hx : Blind R x) :
    Blind R (ExceptT.run (liftM x : Action ε α)) where
  alike s t h := ⟨congrArg Except.ok (hx.alike s t h).value, (hx.alike s t h).sites⟩

/-- A modification that keeps sites related does not tell them apart. -/
lemma modify {f : Site → Site} (hf : ∀ s t, R s t → R (f s) (f t)) : Blind R (modify f) where
  alike s t h := ⟨rfl, hf s t h⟩

/-- What is done after a site has been read is the same on related sites. -/
lemma bind_get {f : Site → StateM Site β} (hsame : ∀ s t, R s t → f s = f t)
    (hf : ∀ s, Blind R (f s)) : Blind R (get >>= f) where
  alike s t h := by
    obtain ⟨hvalue, hsites⟩ := (hf s).alike s t h
    rw [hsame s t h] at hvalue hsites
    exact ⟨by rw [runOn_bind, runOn_get, hsame s t h]; exact hvalue,
      by rw [runOn_bind, runOn_get, hsame s t h]; exact hsites⟩

/-- The same for actions. -/
lemma run_bind_get {f : Site → Action ε β} (hsame : ∀ s t, R s t → f s = f t)
    (hf : ∀ s, Blind R (f s).run) : Blind R (ExceptT.run (get >>= f)) :=
  bind_get (f := fun s => (f s).run) (fun s t h => congrArg ExceptT.run (hsame s t h)) hf

/-- A table is read after an access to it. -/
lemma access_read {table : Table} {kind : Access} (haccess : Blind R (access table kind).run)
    {g : Site → γ} (hg : ∀ s t, R s t → g s = g t) :
    Blind R (ExceptT.run (do access table kind; Pure.pure (g (← get)) : Action StorageError γ)) :=
  .run_bind haccess fun _ =>
    .run_bind_get (fun s t h => congrArg Pure.pure (hg s t h)) fun _ => .pure _

end Blind

/-! ### Writes -/

/-- **A write is blind**: an access to a table, and then what is written, by a function of the site.
-/
lemma Blind.access_write {table : Table} {kind : Access} {act : Action StorageError α}
    (value : Site → Except StorageError α) (write : Site → Site)
    (hact : ∀ s, runOn act.run s =
      match runOn (access table kind).run s with
      | (.error e, s₁) => (.error e, s₁)
      | (.ok _, s₁) => (value s₁, write s₁))
    (haccess : Blind R (access table kind).run) (hvalue : ∀ s t, R s t → value s = value t)
    (hwrite : ∀ s t, R s t → R (write s) (write t)) : Blind R act.run where
  alike s t h := by
    obtain ⟨haccessed, hsites⟩ := haccess.alike s t h
    have hs := hact s
    have ht := hact t
    rcases hs₁ : runOn (access table kind).run s with ⟨r, s₁⟩
    rcases ht₁ : runOn (access table kind).run t with ⟨r', t₁⟩
    rw [hs₁, ht₁] at haccessed hsites
    obtain rfl : r = r' := haccessed
    rcases r with e | u <;> simp only [hs₁, ht₁] at hs ht
    · exact ⟨by rw [hs, ht], by rw [hs, ht]; exact hsites⟩
    · exact ⟨by rw [hs, ht]; exact hvalue s₁ t₁ hsites, by rw [hs, ht]; exact hwrite s₁ t₁ hsites⟩

/-- **Transactions are carried out alike** if their work is done alike, and taken back alike. While
they work the sites may be related in another way, which may depend on where they began. -/
lemma Alike.transaction {S : Site → Site → Prop} {work : Action ε α} (lift : StorageError → ε)
    (hstrike : (strike .transactions .begin s.faults).1 = (strike .transactions .begin t.faults).1)
    (hbegun : R s.begun t.begun) (hwork : Alike S work.run s.begun t.begun)
    (hdone : ∀ s' t', S s' t' → R s' t')
    (hback : ∀ s' t', S s' t' → R (s'.rolledBack s.begun) (t'.rolledBack t.begun)) :
    Alike R (Overrides.transaction lift work).run s t := by
  have hs := Overrides.runOn_transaction_begun lift work s
  have ht := Overrides.runOn_transaction_begun lift work t
  rw [← hstrike] at ht
  rcases hbegin : (strike .transactions .begin s.faults).1 with _ | e
  · obtain ⟨hvalue, hsites⟩ := hwork
    rcases hs' : runOn work.run s.begun with ⟨r, s'⟩
    rcases ht' : runOn work.run t.begun with ⟨r', t'⟩
    rw [hs', ht'] at hvalue hsites
    obtain rfl : r = r' := hvalue
    rcases r with e | a <;> simp only [hbegin, hs', ht'] at hs ht
    · exact ⟨by rw [hs, ht], by rw [hs, ht]; exact hback s' t' hsites⟩
    · exact ⟨by rw [hs, ht], by rw [hs, ht]; exact hdone s' t' hsites⟩
  · simp only [hbegin] at hs ht
    exact ⟨by rw [hs, ht], by rw [hs, ht]; exact hbegun⟩

/-- **A change is applied alike** where the override that it is about is found alike, and what it
writes is alike. -/
lemma Blind.applyChange {c : RowChange} (haccess : ∀ kind, Blind R (access .overrides kind).run)
    (hcount : ∀ s t, R s t → s.overrideCount = t.overrideCount)
    (hinsert : ∀ s t, R s t → R (s.inserted c.draft.data) (t.inserted c.draft.data))
    (hthere : ∀ id, c.draft.id? = some id → ∀ s t, R s t →
      hasId (.given id) s.overrides = hasId (.given id) t.overrides)
    (hupdate : ∀ id, c.draft.id? = some id → ∀ s t, R s t →
      R (s.supersede (replaceData (.given id) c.draft.data s.overrides))
        (t.supersede (replaceData (.given id) c.draft.data t.overrides)))
    (hdelete : ∀ id, c.draft.id? = some id → ∀ s t, R s t →
      R (s.supersede (removeId (.given id) s.overrides))
        (t.supersede (removeId (.given id) t.overrides))) :
    Blind R (applyChange c).run := by
  unfold QuizOverrides.applyChange
  -- an insert needs the counts alike, an update and a deletion the override that they are about
  rcases c.action with _ | _ | _ | _ <;> dsimp only
  · refine .run_bind (.mapError _ ?_) fun _ => .pure _
    refine .access_write _ _ (Overrides.runOn_insert c.draft.data) (haccess _)
      (fun s t h => ?_) hinsert
    rw [hcount s t h]
  · rcases hid : c.draft.id? with _ | id
    · exact .throw _
    · refine .mapError _ (.access_write
        (fun s => if hasId (.given id) s.overrides then .ok () else
          .error (.overrideGone (.given id)))
        (fun s => s.supersede (replaceData (.given id) c.draft.data s.overrides))
        (fun s => ?_) (haccess .update) (fun s t h => ?_) (hupdate id hid))
      · rw [Overrides.runOn_update, runOn_access]
        rcases (strike .overrides .update s.faults).1 with _ | e <;> rfl
      · rw [hthere id hid s t h]
  · rcases hid : c.draft.id? with _ | id
    · exact .throw _
    · refine .mapError _ (.access_write
        (fun s => if hasId (.given id) s.overrides then .ok () else
          .error (.overrideGone (.given id)))
        (fun s => s.supersede (removeId (.given id) s.overrides))
        (fun s => ?_) (haccess .delete) (fun s t h => ?_) (hdelete id hid))
      · rw [Overrides.runOn_delete, runOn_access]
        rcases (strike .overrides .delete s.faults).1 with _ | e <;> rfl
      · rw [hthere id hid s t h]
  · exact .pure _

/-- **Changes are applied alike**, one after the other, if each of them is. -/
lemma Blind.applyChanges {changes : List RowChange}
    (h : ∀ c ∈ changes, Blind R (QuizOverrides.applyChange c).run) (summary : CommitSummary) :
    Blind R (applyChanges changes summary).run := by
  induction changes generalizing summary with
  | nil => exact .pure _
  | cons c rest ih =>
    refine .run_bind (.mapError _ (h c List.mem_cons_self)) fun _ => ?_
    exact ih (fun c' hc' => h c' (List.mem_cons_of_mem _ hc')) _

/-! ### Veils -/

/-- **Two sites look alike to requests for a quiz**: they have the same subjects, quizzes, settings,
runtime and time, and the same overrides and batches of this quiz. -/
structure Site.LooksLike (quizId : Field String) (s t : Site) : Prop where
  users : s.users = t.users
  groups : s.groups = t.groups
  quizzes : s.quizzes = t.quizzes
  options : s.options = t.options
  runtime : s.runtime = t.runtime
  clock : s.clock = t.clock
  overrides : (s.overrides.filter fun o => o.data.quizId == quizId) =
    t.overrides.filter fun o => o.data.quizId == quizId
  batches : (s.batches.filter fun b => quizId.holds (some b.quizId)) =
    t.batches.filter fun b => quizId.holds (some b.quizId)

/-- **A veil for a quiz**: related sites look alike to requests for the quiz, and no operation that
these requests are made of tells them apart, apart from reports and the changes of commits. -/
structure Veil (R : Site → Site → Prop) (quizId : Field String) : Prop where
  looks : ∀ s t, R s t → s.LooksLike quizId t
  access : ∀ table kind, table ≠ .audit → Blind R (access table kind).run
  logLine : ∀ line, Blind R (logLine line)
  console : ∀ f, Blind R (onConsole f)
  draw : ∀ bound, Blind R (draw bound)
  save : ∀ id mode delimiter content passwords, quizId = .given id →
    Blind R (Batches.save id mode delimiter content passwords).run
  remove : ∀ id, Blind R (Batches.remove id).run

/-- **A relation is a veil** if accesses are blind to what it hides, and if all that operations
write leads from related sites to related ones. -/
theorem Veil.of_writes {quizId : Field String} (hlooks : ∀ s t, R s t → s.LooksLike quizId t)
    (hcounts : ∀ s t, R s t → s.batchCount = t.batchCount ∧ s.drawSource = t.drawSource ∧
      s.drawsMade = t.drawsMade)
    (haccess : ∀ table kind, table ≠ .audit → Blind R (QuizOverrides.access table kind).run)
    (hlog : ∀ line s t, R s t →
      R { s with logs := s.logs ++ [line] } { t with logs := t.logs ++ [line] })
    (hconsole : ∀ (f : Console → Console) s t, R s t →
      R { s with console := f s.console } { t with console := f t.console })
    (hdraw : ∀ s t, R s t →
      R { s with drawsMade := s.drawsMade + 1 } { t with drawsMade := t.drawsMade + 1 })
    (hsave : ∀ id mode delimiter content passwords, quizId = .given id → ∀ s t, R s t →
      R (s.withBatch (s.newBatch id mode delimiter content passwords))
        (t.withBatch (t.newBatch id mode delimiter content passwords)))
    (hremove : ∀ id s t, R s t → R { s with batches := s.batches.filter fun b => b.id ≠ id }
      { t with batches := t.batches.filter fun b => b.id ≠ id }) : Veil R quizId where
  looks := hlooks
  access := haccess
  logLine line := .modify (hlog line)
  console f := .modify (hconsole f)
  draw bound := ⟨fun s t h => by
    obtain ⟨-, hsource, hmade⟩ := hcounts s t h
    refine ⟨?_, hdraw s t h⟩
    show (drawnNumber s.drawSource s.drawsMade).tmod bound =
      (drawnNumber t.drawSource t.drawsMade).tmod bound
    rw [hsource, hmade]⟩
  save id mode delimiter content passwords hquiz := by
    refine .access_write _ _ (Batches.runOn_save id mode delimiter content passwords)
      (haccess _ _ (by decide)) (fun s t h => ?_) (hsave id mode delimiter content passwords hquiz)
    rw [(hcounts s t h).1]
  remove id := .access_write _ _ (Batches.runOn_remove id) (haccess _ _ (by decide))
    (fun _ _ _ => rfl) (hremove id)

/-- **Reports are saved or not without regard** to what tells related sites apart. -/
def BlindReports (R : Site → Site → Prop) : Prop := ∀ entry, Blind R (Audit.report entry)

namespace Veil

variable {quizId : Field String}

/-! ### Runs -/

/-- Finding a subject by its id sees what is not veiled. -/
lemma findSubject? (V : Veil R quizId) (kind : SubjectKind) (courseId : Field String)
    (id : String) : Blind R (findSubject? kind courseId id).run := by
  unfold QuizOverrides.findSubject? Directory.findUser? Directory.findGroup?
  cases kind <;> dsimp only <;> split_ifs
  · exact .access_read (V.access _ _ (by decide)) fun s t h => by rw [(V.looks s t h).users]
  · exact .pure _
  · exact .access_read (V.access _ _ (by decide)) fun s t h => by rw [(V.looks s t h).groups]
  · exact .pure _

/-- Searching the users sees what is not veiled. -/
lemma searchUsers (V : Veil R quizId) (p : User → Bool) :
    Blind R (Directory.searchUsers p).run :=
  .access_read (V.access _ _ (by decide)) fun s t h => by rw [(V.looks s t h).users]

/-- Searching the groups sees what is not veiled. -/
lemma searchGroups (V : Veil R quizId) (p : CourseGroup → Bool) :
    Blind R (Directory.searchGroups p).run :=
  .access_read (V.access _ _ (by decide)) fun s t h => by rw [(V.looks s t h).groups]

/-- Looking up a subject sees what is not veiled. -/
lemma lookupSubject (V : Veil R quizId) (kind : SubjectKind) (courseId : Field String)
    (c : SubjectCriteria) : Blind R (lookupSubject kind courseId c).run := by
  unfold QuizOverrides.lookupSubject Directory.lookupUser Directory.lookupGroup
  cases kind <;> dsimp only <;> split_ifs
  · exact V.searchUsers _
  · exact V.searchUsers _
  · exact .pure _
  · exact V.searchGroups _
  · exact V.searchGroups _
  · exact .pure _

/-- Rows are validated alike. -/
lemma validate (V : Veil R quizId) (kind : SubjectKind) (courseId : Field String) (c : Cells) :
    Blind R (validate kind courseId c).run := by
  refine .run_bind ?_ fun _ => .pure _
  unfold resolveSubject resolveNamed
  split_ifs
  · exact .run_bind (V.findSubject? _ _ _) fun _ => .pure _
  · exact .run_bind (V.lookupSubject _ _ _) fun _ => .pure _
  · exact .run_bind (V.lookupSubject _ _ _) fun _ => .pure _
  · exact .pure _

/-- The same override is found for a subject of the quiz. -/
lemma override? (V : Veil R quizId) {s t : Site} (h : R s t) (kind : SubjectKind)
    (subject : String) : s.override? quizId kind subject = t.override? quizId kind subject := by
  have hfind (s : Site) : s.override? quizId kind subject =
      (s.overrides.filter fun o => o.data.quizId == quizId).find?
        (OverrideFilter.forSubject quizId kind subject).admits := by
    unfold Site.override?
    rw [List.find?_filter, OverrideFilter.admits_forSubject]
    congr 1
    funext o
    rw [Bool.eq_iff_iff]
    simp [OverrideKey.owns]
  rw [hfind s, hfind t, (V.looks s t h).overrides]

/-- Looking up the override of a subject sees what is not veiled. -/
lemma existingId? (V : Veil R quizId) (kind : SubjectKind) (subject : Option String) :
    Blind R (existingId? quizId kind subject).run := by
  unfold QuizOverrides.existingId?
  cases given? subject with
  | none => exact .pure _
  | some x =>
    have hget : Blind R (Overrides.get? (.forSubject quizId kind x)).run :=
      .access_read (V.access _ _ (by decide)) fun _ _ h => V.override? h kind x
    exact .run_bind hget fun _ => .pure _

/-- Drawing numbers sees what is not veiled. -/
lemma drawMany (V : Veil R quizId) (n : Nat) : Blind R (Password.drawMany n) := by
  induction n with
  | zero => exact .pure _
  | succ n ih => exact .bind (V.draw _) fun _ => .bind ih fun _ => .pure _

/-- The password of a row is chosen from what is not veiled. -/
lemma rowPassword (V : Veil R quizId) (row : ValidatedRow) (pinned : Option String) :
    Blind R (rowPassword row pinned) := by
  unfold QuizOverrides.rowPassword
  split_ifs
  · rcases pinned with _ | p
    · refine .bind_get (fun s t h => ?_) fun s => .map _ (.map _ (V.drawMany _))
      rw [(V.looks s t h).options]
    · exact .pure _
  · exact .pure _

/-- A record is assessed by what is not veiled. -/
lemma assessRecord {st : RunSettings} (V : Veil R st.quiz.id) (number : Nat)
    (record : List String) : Blind R (assessRecord st number record).run := by
  rw [assessRecord_eq]
  refine .run_bind ?_ fun found => .run_bind (.lift (V.rowPassword _ _)) fun _ => .pure _
  exact .run_bind (V.validate _ _ _) fun row => .run_bind (V.existingId? _ _) fun _ => .pure _

/-- **Records are scanned alike.** -/
theorem scanRecords {st : RunSettings} (V : Veil R st.quiz.id) (number : Nat)
    (records : List (List String)) : Blind R (scanRecords st number records) := by
  induction records generalizing number with
  | nil => exact .pure _
  | cons record rest ih =>
    unfold QuizOverrides.scanRecords
    refine .bind (V.assessRecord _ _) fun r => ?_
    rcases r with e | _ | row
    · exact .pure _
    · exact ih _
    · exact .bind (ih _) fun _ => .pure _

/-- A run over a table sees what is not veiled. -/
lemma process {run : ImportRun} (V : Veil R run.settings.quiz.id) : Blind R run.process := by
  unfold ImportRun.process
  dsimp only
  split
  · exact .bind (V.logLine _) fun _ => .pure _
  · refine .bind (V.scanRecords _ _) fun scanned => ?_
    rcases scanned with ⟨found, _ | e⟩
    · exact .bind (V.logLine _) fun _ => .pure _
    · exact .pure _

/-- Reading a value of the form looks at no site. -/
lemma usable {η : Type} (e : Except ValueFault η) : Blind R (ImportService.usable e).run := by
  rcases e with fault | a
  · exact .throw _
  · exact .pure _

/-- A run with its report sees what is not veiled. -/
lemma runTable {quiz : Quiz} (V : Veil R (.given quiz.id)) (table : Csv.Table) (mode : Mode)
    (pinned : RowPasswords) : Blind R (ImportService.runTable table mode quiz pinned).run := by
  unfold ImportService.runTable
  refine .run_bind (.lift ?_) fun processed => ?_
  · unfold ImportRun.processIn
    split
    · exact .pure _
    · exact .bind V.process fun _ => .pure _
  · obtain ⟨outcome, run⟩ := processed
    refine .run_bind (usable _) fun result => ?_
    rcases result with e | ok
    · exact .throw _
    · cases ok
      · exact .throw _
      · exact .pure _

/-! ### Requests -/

/-- Finding the quiz sees what is not veiled. -/
lemma findQuiz (V : Veil R quizId) (id : Field String) :
    Blind R (ImportService.findQuiz id).run := by
  have hfind : Blind R (Quizzes.find? id).run := by
    unfold Quizzes.find?
    cases issuedId? id with
    | none => exact .pure _
    | some i =>
      exact .access_read (V.access _ _ (by decide)) fun s t h => by rw [(V.looks s t h).quizzes]
  refine .run_bind (.mapError _ hfind) fun found => ?_
  cases found with
  | none => exact .throw _
  | some quiz => exact .pure _

/-- A file is decoded by what is not veiled. -/
lemma decode (V : Veil R quizId) (form : ImportForm) (bytes : ByteArray) :
    Blind R (ImportService.decode form bytes).run := by
  refine .run_bind (usable _) fun label => ?_
  refine .run_bind_get (fun s t h => by rw [(V.looks s t h).runtime]) fun site => ?_
  split
  · exact .pure _
  · exact .throw _

/-- Uploads to the quiz are examined alike. -/
lemma examine (V : Veil R quizId) (bytes : ByteArray) (form : ImportForm) :
    Blind R (ImportService.examine quizId bytes form).run := by
  refine ⟨fun s t h => ?_⟩
  refine ((V.findQuiz quizId).alike s t h).run_bind fun quiz s' t' hs _ h' => ?_
  obtain rfl := ImportService.given_of_quiz? (ImportService.findQuiz_returns hs).1
  refine Blind.alike (.run_bind (V.decode _ _) fun content => ?_) _ _ h'
  refine .run_bind (usable _) fun table => ?_
  split_ifs
  · exact .throw_bind _ _
  · exact .throw_bind _ _
  · exact .throw_bind _ _
  · refine .run_bind (V.runTable _ _ _) fun run => ?_
    split_ifs
    · exact .throw_bind _ _
    · exact .pure _

/-- Uploads to the quiz are previewed alike. -/
lemma preview (V : Veil R quizId) (hreport : BlindReports R) (bytes : ByteArray) (form : ImportForm)
    (origin : RequestOrigin) : Blind R (ImportService.preview quizId bytes form origin).run := by
  refine ⟨fun s t h => ?_⟩
  refine ((V.examine bytes form).alike s t h).run_bind fun found s' t' hs _ h' => ?_
  obtain ⟨quiz, content, run⟩ := found
  have hquiz := ImportService.given_of_quiz? (ImportService.examine_returns hs).quiz
  refine Blind.alike (.run_bind (.mapError _ (V.save _ _ _ _ _ hquiz)) fun _ => ?_) _ _ h'
  exact .run_bind (.lift (hreport _)) fun _ => .pure _

/-- The same batch is found. -/
lemma find (V : Veil R quizId) (importId : Field String) :
    Blind R (Batches.find quizId importId).run := by
  unfold Batches.find
  cases issuedId? importId with
  | none => exact .throw _
  | some id =>
    refine .run_bind (.mapError _ (V.access _ _ (by decide))) fun _ => ?_
    have hfind (s : Site) : (s.batches.find? fun b => b.id == id && quizId.holds (some b.quizId)) =
        (s.batches.filter fun b => quizId.holds (some b.quizId)).find? fun b => b.id == id := by
      rw [List.find?_filter]
      congr 1
      funext b
      rw [Bool.and_comm, Bool.decide_and, Bool.decide_coe, Bool.decide_coe]
    refine .run_bind_get (fun s t h => ?_) fun site => ?_
    · rw [hfind s, hfind t, (V.looks s t h).batches, (V.looks s t h).options, (V.looks s t h).clock]
    split
    · exact .throw _
    · split_ifs
      · exact .run_bind (.mapError _ (V.remove _)) fun _ => .throw _
      · exact .pure _

/-- A batch of the quiz is validated alike. -/
lemma revalidate (V : Veil R quizId) (importId : Field String) :
    Blind R (ImportService.revalidate quizId importId).run := by
  refine ⟨fun s t h => ?_⟩
  refine ((V.findQuiz quizId).alike s t h).run_bind fun quiz s' t' hs _ h' => ?_
  obtain rfl := ImportService.given_of_quiz? (ImportService.findQuiz_returns hs).1
  refine Blind.alike (.run_bind (V.find _) fun batch => ?_) _ _ h'
  exact .run_bind (usable _) fun table => .run_bind (V.runTable _ _ _) fun _ => .pure _

/-- An import of the quiz is discarded alike. -/
lemma discard (V : Veil R quizId) (importId : Field String) :
    Blind R (ImportService.discard quizId importId).run :=
  .run_bind (V.find _) fun _ => .run_bind (.mapError _ (V.remove _)) fun _ => .lift (V.logLine _)

/-- The rows of a template are made of what is not veiled. -/
lemma templateRows {quiz : Quiz} (V : Veil R (.given quiz.id)) (kind : SubjectKind) :
    Blind R (Template.rows quiz kind).run := by
  have hlist : Blind R (Overrides.list (.given quiz.id)).run :=
    .access_read (V.access _ _ (by decide)) fun s t h => (V.looks s t h).overrides
  refine .run_bind hlist fun overrides => ?_
  refine .run_bind_get (fun s t h => by
    rw [Site.templateZone, (V.looks s t h).options, (V.looks s t h).runtime]
    rfl) fun site => ?_
  cases kind with
  | user =>
    dsimp only
    unfold Template.userRows
    dsimp only
    split_ifs
    · exact .pure _
    · refine .run_bind ?_ fun _ => .pure _
      exact .access_read (V.access _ _ (by decide)) fun s t h => by rw [(V.looks s t h).users]
  | group =>
    refine .run_bind ?_ fun _ => .pure _
    exact .access_read (V.access _ _ (by decide)) fun s t h => by rw [(V.looks s t h).groups]

/-- The template of the quiz is made alike. -/
lemma template (V : Veil R quizId) (mode : Mode) :
    Blind R (ImportService.template quizId mode).run := by
  refine ⟨fun s t h => ?_⟩
  refine ((V.findQuiz quizId).alike s t h).run_bind fun quiz s' t' hs _ h' => ?_
  obtain rfl := ImportService.given_of_quiz? (ImportService.findQuiz_returns hs).1
  refine Blind.alike (.run_bind (.mapError _ (V.templateRows _)) fun rows => ?_) _ _ h'
  exact .run_bind (usable _) fun _ => .pure _

end Veil

/-! ### Commits -/

/-- **The changes of commits are applied alike**, on whatever sites the batches of the quiz have
been validated. The relation itself need not say so, for what a change does to a site may depend on
more than the changes of this quiz. -/
def CommitsAlike (R : Site → Site → Prop) (quizId : Field String) (s t : Site) : Prop :=
  ∀ importId quiz batch run s₁ t₁,
    (ImportService.revalidate quizId importId).Returns s (quiz, batch, run) s₁ →
    (ImportService.revalidate quizId importId).Returns t (quiz, batch, run) t₁ →
    R s₁ t₁ → run.canImport = true →
    Alike R (commitChanges (ImportService.changesOf run)).run s₁ t₁

namespace Veil

variable {quizId : Field String}

/-- The commit of a run is the same on two sites if its changes are. -/
lemma commitRun (V : Veil R quizId) {run : ImportRun} (hcan : run.canImport = true)
    (hchanges : Alike R (commitChanges (ImportService.changesOf run)).run s t) :
    Alike R run.commit s t := by
  obtain ⟨hprocessed, hready⟩ := ImportService.not_refused_of_canImport hcan
  unfold ImportRun.commit
  dsimp only
  rw [if_neg hprocessed, if_neg hready]
  refine Alike.bind hchanges fun result s' t' _ _ h => ?_
  rcases result with e | total
  · exact Blind.alike (.bind (V.logLine _) fun _ => .pure _) _ _ h
  · exact (Blind.pure _).alike _ _ h

/-- An import of the quiz is committed alike, if its changes are. -/
lemma commit (V : Veil R quizId) (hreport : BlindReports R) (h : R s t)
    (hcommits : CommitsAlike R quizId s t) (importId : Field String) (origin : RequestOrigin) :
    Alike R (ImportService.commit quizId importId origin).run s t := by
  refine ((V.revalidate importId).alike s t h).run_bind fun found s₁ t₁ hs ht h₁ => ?_
  obtain ⟨quiz, batch, run⟩ := found
  dsimp only
  split_ifs with hcan
  · exact (Blind.throw_bind _ _).alike _ _ h₁
  · have hcan : run.canImport = true := by simpa using hcan
    have hrun := V.commitRun hcan (hcommits importId quiz batch run s₁ t₁ hs ht h₁ hcan)
    have hlift :
        Alike R (ExceptT.run (liftM run.commit : Action Refusal (Bool × ImportRun))) s₁ t₁ :=
      ⟨congrArg Except.ok hrun.value, hrun.sites⟩
    refine hlift.run_bind fun result s₂ t₂ _ _ h₂ => ?_
    obtain ⟨-, run'⟩ := result
    dsimp only
    split
    · exact Blind.alike (.run_bind (.lift (hreport _)) fun _ => .throw _) _ _ h₂
    · refine Blind.alike (.run_bind (.mapError _ (V.remove _)) fun _ => ?_) _ _ h₂
      exact .run_bind (.lift (hreport _)) fun _ => .pure _

end Veil

/-! ### Events -/

namespace Veil

/-- Whether an upload is accepted depends on what is not veiled. -/
lemma acceptUpload {quizId : Field String} (V : Veil R quizId) (file : Option Upload) :
    Blind R (acceptUpload file).run := by
  rcases file with _ | upload
  · exact .throw _
  · unfold QuizOverrides.acceptUpload
    dsimp only
    split_ifs
    · exact .pure _
    · exact .run_bind (.lift (V.logLine _)) fun _ => .throw _

/-- A request for the quiz is answered alike. -/
lemma answer {r : Request} (V : Veil R r.quizId) (hreport : BlindReports R) (h : R s t)
    (hcommits : CommitsAlike R r.quizId s t) : Alike R r.answer.run s t := by
  cases r with
  | preview quizId file form origin =>
    refine Blind.alike (.run_bind (V.acceptUpload _) fun _ => ?_) _ _ h
    exact .run_bind (V.preview hreport _ _ _) fun _ => .pure _
  | commit quizId importId origin =>
    refine (V.commit hreport h hcommits importId origin).run_bind fun _ _ _ _ _ h' => ?_
    exact (Blind.pure _).alike _ _ h'
  | discard quizId importId =>
    exact Blind.alike (.run_bind (V.discard _) fun _ => .pure _) _ _ h
  | template quizId mode =>
    exact Blind.alike (.run_bind (V.template _) fun _ => .pure _) _ _ h

/-- Errors are answered alike. -/
lemma answerError {quizId : Field String} (V : Veil R quizId) (thrown : Thrown)
    (method url : Option Payload) : Blind R (answerError thrown method url) := by
  unfold QuizOverrides.answerError
  refine .bind_get (fun s t h => by rw [(V.looks s t h).clock]) fun site => ?_
  dsimp only
  rcases ErrorBody.ofThrown thrown url site.clock.instant with fault | body
  · exact .pure _
  · exact .bind (V.console _) fun _ => .pure _

/-- A request over HTTP that cannot be read is answered alike. -/
lemma unread {quizId : Field String} (V : Veil R quizId) {hr : HttpRequest} {e : Refusal}
    (hread : hr.read = .error e) : Blind R (Event.httpRequest hr).run := by
  unfold Event.run HttpRequest.answer
  simp only [hread]
  refine .bind (.bind (.throw _) fun result => ?_) fun result => ?_
  · rcases result with e | a
    · exact .bind (V.answerError _ _ _) fun _ => .pure _
    · exact .pure _
  · rcases result with answer | ⟨status, a⟩ <;> exact .pure _

/-- **An event that makes a request for the quiz** has the same outcome on sites that are alike, and
leaves sites that are alike. -/
theorem event {e : Event} {r : Request} (hrequest : e.request? = some r) (V : Veil R r.quizId)
    (hreport : BlindReports R) (h : R s t) (hcommits : CommitsAlike R r.quizId s t) :
    Alike R e.run s t := by
  cases e with
  | change c => simp [Event.request?] at hrequest
  | request r' =>
    obtain rfl : r' = r := Option.some.inj hrequest
    refine (V.answer hreport h hcommits).bind fun result _ _ _ _ h' => ?_
    rcases result with e | a <;> exact (Blind.pure _).alike _ _ h'
  | httpRequest hr =>
    obtain hread : hr.read = .ok r := by
      unfold Event.request? at hrequest
      dsimp only at hrequest
      rcases hread : hr.read with e | r' <;> simp [hread, Except.toOption] at hrequest
      rw [hrequest]
    unfold Event.run HttpRequest.answer
    simp only [hread]
    refine Alike.bind ?_ fun result _ _ _ _ h' => ?_
    · refine (V.answer hreport h hcommits).bind fun result _ _ _ _ h' => ?_
      rcases result with e | a
      · exact Blind.alike (.bind (V.answerError _ _ _) fun _ => .pure _) _ _ h'
      · exact (Blind.pure _).alike _ _ h'
    · rcases result with answer | ⟨status, a⟩ <;> exact (Blind.pure _).alike _ _ h'

end Veil

/-- **What tells sites apart is not seen by any event** but those that change sites, if requests and
reports do not see it and all changes of commits are applied alike. -/
theorem Event.blind_run_of_veils (V : ∀ quizId, Veil R quizId) (hreport : BlindReports R)
    (hchanges : ∀ changes, Blind R (commitChanges changes).run) {e : Event}
    (he : ∀ c, e ≠ .change c) : Blind R e.run := by
  rcases hrequest : e.request? with _ | r
  · rcases of_no_request hrequest with ⟨c, rfl⟩ | ⟨hr, refusal, rfl, hread⟩
    · exact absurd rfl (he c)
    · exact (V .absent).unread hread
  · exact ⟨fun s t h => (V r.quizId).event hrequest hreport h fun _ _ _ _ s₁ t₁ _ _ h₁ _ =>
      (hchanges _).alike s₁ t₁ h₁⟩

/-! ### Invariants -/

/-- **The two sites are one**, and it satisfies an invariant. A computation is blind to what tells
such sites apart if it keeps the invariant. -/
def Kept (I : Site → Prop) (s t : Site) : Prop := s = t ∧ I s

variable {I : Site → Prop}

/-- What keeps an invariant is blind to the sites related by it. -/
lemma Blind.of_keeps {x : StateM Site α} (h : ∀ s, I s → I (runOn x s).2) : Blind (Kept I) x where
  alike := by
    rintro s _ ⟨rfl, hs⟩
    exact ⟨rfl, rfl, h s hs⟩

/-- **An invariant is kept** by blind computations. -/
lemma Blind.keeps {x : StateM Site α} (h : Blind (Kept I) x) {s : Site} (hs : I s) :
    I (runOn x s).2 :=
  (h.alike s s ⟨rfl, hs⟩).sites.2

/-- An invariant that is kept holds where the action returns. -/
lemma Blind.keeps_of_returns {act : Action ε α} (h : Blind (Kept I) act.run) {s s' : Site} {a : α}
    (hrun : act.Returns s a s') (hs : I s) : I s' := by
  have := h.keeps hs
  rwa [hrun] at this

/-- An invariant that is kept holds where the action throws. -/
lemma Blind.keeps_of_throws {act : Action ε α} (h : Blind (Kept I) act.run) {s s' : Site} {e : ε}
    (hrun : act.Throws s e s') (hs : I s) : I s' := by
  have := h.keeps hs
  rwa [hrun] at this

/-- **An invariant of the operations is a veil**, so that it is kept by all that requests make of
them. -/
theorem Veil.of_invariant
    (haccess : ∀ table kind, table ≠ .audit → ∀ s : Site, I s → I (s.accessed table kind))
    (hlog : ∀ line, ∀ s : Site, I s → I { s with logs := s.logs ++ [line] })
    (hconsole : ∀ (f : Console → Console) (s : Site), I s → I { s with console := f s.console })
    (hdraw : ∀ s : Site, I s → I { s with drawsMade := s.drawsMade + 1 })
    (hsave : ∀ batch, ∀ s : Site, I s → I (s.withBatch batch))
    (hremove : ∀ id, ∀ s : Site, I s →
      I { s with batches := s.batches.filter fun b => b.id ≠ id }) (quizId : Field String) :
    Veil (Kept I) quizId := by
  have hsame {f : Site → Site} (hf : ∀ s, I s → I (f s)) (s t : Site) (h : Kept I s t) :
      Kept I (f s) (f t) := ⟨congrArg f h.1, hf s h.2⟩
  refine .of_writes ?looks ?counts ?access (fun line => hsame (hlog line))
    (fun f => hsame (hconsole f)) (hsame hdraw) (fun _ _ _ _ _ _ => hsame fun s => hsave _ s)
    fun id => hsame (hremove id)
  case looks =>
    rintro s _ ⟨rfl, -⟩
    exact ⟨rfl, rfl, rfl, rfl, rfl, rfl, rfl, rfl⟩
  case counts =>
    rintro s _ ⟨rfl, -⟩
    exact ⟨rfl, rfl, rfl⟩
  case access =>
    refine fun table kind htable => .of_keeps fun s hs => ?_
    rw [runOn_access]
    exact haccess table kind htable s hs

end QuizOverrides
