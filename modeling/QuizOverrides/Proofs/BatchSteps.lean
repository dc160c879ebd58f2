import QuizOverrides.Proofs.Refusals
import QuizOverrides.Proofs.Sessions

set_option autoImplicit false

/-!
# What an event does to the batches

A preview that returns adds a batch. A batch is taken away by a commit or a discard that returns, or
by one that finds it expired. No other event of a session touches the batches. What a client is told
is the answer of the service or, where the service refuses, its refusal.

## Main definitions

* `QuizOverrides.Request.quizId` — the quiz that a request is about.
* `QuizOverrides.Request.about?` — the quiz and the import of a commit or a discard.
* `QuizOverrides.Event.request?` — the request that an event makes of the service.
* `QuizOverrides.Outcome.Shows` — an outcome shows what a request has come to.
* `QuizOverrides.Request.BatchEffect` — what a request does to the batches.

## Main results

* `QuizOverrides.Request.batchEffect` — every request does one of these things.
* `QuizOverrides.Request.overrides_of_ne_commit` — only commits write overrides.
* `QuizOverrides.Request.throws_of_not_named` — commits and discards without a batch.
* `QuizOverrides.Event.run_of_request`, `QuizOverrides.Event.run_of_no_request` — events and the
  requests that they make.
-/

namespace QuizOverrides

open QuizOverrides.Action

/-! ### Events and requests -/

/-- **The quiz that a request is about.** -/
def Request.quizId : Request → Field String
  | preview quizId .. => quizId
  | commit quizId .. => quizId
  | discard quizId _ => quizId
  | template quizId _ => quizId

/-- The quiz and the import that a request is about, if it is a commit or a discard. -/
def Request.about? : Request → Option (Field String × Field String)
  | commit quizId importId _ => some (quizId, importId)
  | discard quizId importId => some (quizId, importId)
  | _ => none

/-- They are about one quiz. -/
lemma Request.quizId_of_about {r : Request} {quizId importId : Field String}
    (h : r.about? = some (quizId, importId)) : r.quizId = quizId := by
  cases r with
  | preview | template => simp [about?] at h
  | commit | discard => exact (Prod.mk.inj (Option.some.inj h)).1

/-- **The request that an event makes** of the service. What others change makes none, and neither
does a request over HTTP that cannot be read. -/
def Event.request? : Event → Option Request
  | change _ => none
  | request r => some r
  | httpRequest h => h.read.toOption

/-- The answer that an outcome shows, if it shows one. -/
def Outcome.answer? : Outcome → Option Answer
  | answered a => some a
  | responded _ a => some a
  | _ => none

/-- **The client is told that something was not found.** -/
def Outcome.IsNotFound : Outcome → Prop
  | refused e => e.IsNotFound
  | failed (.ok body) => body.statusCode = .given (.finite 404)
  | _ => False

/-- **An outcome shows what a request has come to**: its answer, or the refusal, which over HTTP has
become an error body. -/
inductive Outcome.Shows : Outcome → Except Refusal Answer → Prop where
  | answered (a : Answer) : (Outcome.answered a).Shows (.ok a)
  | responded (status : Int) (a : Answer) : (Outcome.responded status a).Shows (.ok a)
  | refused (e : Refusal) : (Outcome.refused e).Shows (.error e)
  | failed (e : Refusal) (path : Option Payload) (now : Calendar.Instant) :
      (Outcome.failed (ErrorBody.ofThrown e.thrown path now)).Shows (.error e)

/-- All of a site but its accesses, its faults and its console. -/
def Site.stored (s : Site) : Site := { s with accesses := [], faults := [], console := {} }

/-- What is stored is told by the part of a site that stands still. -/
lemma Site.stored_of_still {s s' : Site} (h : s'.still = s.still) : s'.stored = s.stored :=
  congr_of_mask Site.stored h fun _ => rfl

/-- The batches are stored. -/
lemma Site.batches_of_stored {s s' : Site} (h : s'.stored = s.stored) :
    s'.batches = s.batches ∧ s'.batchCount = s.batchCount :=
  ⟨congr_of_mask Site.batches h fun _ => rfl, congr_of_mask Site.batchCount h fun _ => rfl⟩

/-- They are records as well. -/
lemma Site.batches_of_records {s s' : Site} (h : s'.records = s.records) :
    s'.batches = s.batches ∧ s'.batchCount = s.batchCount :=
  ⟨congr_of_mask Site.batches h fun _ => rfl, congr_of_mask Site.batchCount h fun _ => rfl⟩

namespace Outcome.Shows

variable {o : Outcome}

/-- The answer that is shown is the one that the request has come to. -/
lemma answer?_eq {result : Except Refusal Answer} (h : o.Shows result) :
    o.answer? = result.toOption := by
  cases h <;> rfl

/-- An answer that is shown is what the request has come to. -/
lemma eq_ok {result : Except Refusal Answer} {a : Answer} (h : o.Shows result)
    (ha : o.answer? = some a) : result = .ok a := by
  cases h with
  | answered | responded => exact congrArg Except.ok (Option.some.inj ha)
  | refused | failed => simp [answer?] at ha

/-- An error that something was not found has a body with that status. -/
lemma ofThrown_notFound (message : String) (path : Option Payload) (now : Calendar.Instant) :
    ∃ body, ErrorBody.ofThrown (.http (.ofMessage .notFound message)) path now = .ok body ∧
      body.statusCode = .given (.finite 404) := by
  unfold HttpError.ofMessage HttpError.describe
  cases (Payload.text message).isEmptyValue <;> exact ⟨_, rfl, rfl⟩

/-- What is refused as not found is told so. -/
lemma isNotFound {e : Refusal} (h : o.Shows (.error e)) (he : e.IsNotFound) : o.IsNotFound := by
  cases h with
  | refused => exact he
  | failed _ path now =>
    obtain ⟨body, hbody, hstatus⟩ := ofThrown_notFound e.message path now
    rw [show e.thrown = _ from he, hbody]
    exact hstatus

end Outcome.Shows

/-- Answering an error changes neither what is stored nor the faults. -/
lemma runOn_answerError (thrown : Thrown) (method url : Option Payload) (s : Site) :
    ∃ s', runOn (answerError thrown method url) s =
        (ErrorBody.ofThrown thrown url s.clock.instant, s') ∧
      s'.stored = s.stored ∧ s'.faults = s.faults := by
  unfold answerError
  simp only [runOn_bind, runOn_get]
  cases ErrorBody.ofThrown thrown url s.clock.instant <;> exact ⟨_, rfl, rfl, rfl⟩

/-- **An event that makes a request** shows what it has come to, and stores what it has stored. -/
theorem Event.run_of_request {e : Event} {r : Request} (h : e.request? = some r) (s : Site) :
    (runOn e.run s).1.Shows (runOn r.answer.run s).1 ∧
      (runOn e.run s).2.stored = (runOn r.answer.run s).2.stored ∧
      (runOn e.run s).2.faults = (runOn r.answer.run s).2.faults := by
  cases e with
  | change c => simp [request?] at h
  | request r' =>
    obtain rfl : r' = r := Option.some.inj h
    unfold run
    rw [runOn_bind]
    rcases runOn r'.answer.run s with ⟨e | a, s'⟩
    · exact ⟨.refused e, rfl, rfl⟩
    · exact ⟨.answered a, rfl, rfl⟩
  | httpRequest hr =>
    obtain hread : hr.read = .ok r := by
      unfold request? at h
      dsimp only at h
      rcases hread : hr.read with e | r' <;> simp [hread, Except.toOption] at h
      rw [h]
    unfold run HttpRequest.answer
    simp only [hread, runOn_bind]
    rcases runOn r.answer.run s with ⟨e | a, s'⟩
    · simp only [runOn_bind]
      obtain ⟨s'', hrun, hstored, hfaults⟩ :=
        runOn_answerError e.thrown (some (.text hr.method)) (some (.text hr.url)) s'
      rw [hrun]
      exact ⟨.failed e _ _, hstored, hfaults⟩
    · exact ⟨.responded _ a, rfl, rfl⟩

/-- A request over HTTP that cannot be read shows no answer and stores nothing. -/
lemma Event.run_of_unread {hr : HttpRequest} {e : Refusal} (h : hr.read = .error e) (s : Site) :
    (runOn (httpRequest hr).run s).1.answer? = none ∧
      (runOn (httpRequest hr).run s).2.stored = s.stored ∧
      (runOn (httpRequest hr).run s).2.faults = s.faults := by
  unfold run HttpRequest.answer
  simp only [h, runOn_bind, runOn_run_throw]
  obtain ⟨s', hrun, hstored, hfaults⟩ :=
    runOn_answerError e.thrown (some (.text hr.method)) (some (.text hr.url)) s
  rw [hrun]
  exact ⟨rfl, hstored, hfaults⟩

/-- An event that makes no request is a change, or a request over HTTP that cannot be read. -/
lemma Event.of_no_request {e : Event} (h : e.request? = none) :
    (∃ c, e = .change c) ∨ ∃ hr refusal, e = .httpRequest hr ∧ hr.read = .error refusal := by
  cases e with
  | change c => exact .inl ⟨c, rfl⟩
  | request r => simp [request?] at h
  | httpRequest hr =>
    unfold request? at h
    dsimp only at h
    rcases hread : hr.read with e | r <;> simp [hread, Except.toOption] at h
    exact .inr ⟨hr, e, rfl, hread⟩

/-- **An event that makes no request** shows no answer and leaves the batches alone. -/
theorem Event.run_of_no_request {e : Event} (h : e.request? = none) (s : Site) :
    (runOn e.run s).1.answer? = none ∧ (runOn e.run s).2.batches = s.batches ∧
      (runOn e.run s).2.batchCount = s.batchCount := by
  rcases of_no_request h with ⟨c, rfl⟩ | ⟨hr, refusal, rfl, hread⟩
  · exact ⟨rfl, c.apply_batches s⟩
  · obtain ⟨hanswer, hstored, -⟩ := run_of_unread hread s
    exact ⟨hanswer, Site.batches_of_stored hstored⟩

/-! ### Commits and discards -/

/-- **How a refused request leaves the batches**: its batch has expired and has been taken away, or
there is another reason and none has. -/
def RefusedBatches (quizId importId : Field String) (s : Site) (e : Refusal) (s' : Site) : Prop :=
  (∃ batch ∈ s.batches, batch.NamedBy quizId importId ∧
    Batches.isExpired s.options s.clock batch = true ∧ e = .importExpired batch.id ∧
    s'.batches = s.batches.filter fun b => b.id ≠ batch.id) ∨
  s'.batches = s.batches ∧ ∀ id, e ≠ .importExpired id

/-- **A search that fails** takes away a batch only if that one has expired. -/
lemma SearchFailure.batches {quizId importId : Field String} {s s' : Site} {e : Refusal}
    (h : SearchFailure quizId importId s e s') : RefusedBatches quizId importId s e s' := by
  cases h with
  | noQuiz _ hs' | noBatch _ hs' | struck _ hs' =>
    exact .inr ⟨congrArg (·.batches) hs', by simp⟩
  | expired hmem hnamed hexpired hbatches =>
    exact .inl ⟨_, hmem, hnamed, hexpired, rfl, hbatches⟩

namespace ImportService

variable {quizId importId : Field String} {origin : RequestOrigin} {s s' : Site}

/-- **A commit that returns** takes its batch away. -/
lemma commit_removes {total : CommitSummary}
    (h : (commit quizId importId origin).Returns s total s') :
    ∃ batch ∈ s.batches, batch.NamedBy quizId importId ∧
      s'.batches = s.batches.filter fun b => b.id ≠ batch.id := by
  obtain ⟨quiz, batch, run, s₁, s₂, s₃, hrevalidate, -, hcommit, hremove, hs'⟩ := commit_returns h
  obtain ⟨hmem, hnamed, -⟩ := revalidate_namedBy hrevalidate
  refine ⟨batch, hmem, hnamed, ?_⟩
  have hs₁ : s₁.batches = s.batches :=
    (Site.batches_of_records (revalidate_returns hrevalidate).2).1
  have hs₂ : s₂.batches = s₁.batches :=
    congrArg (·.batches) ((commitChanges_frames _).returns hcommit)
  rw [(Site.batches_of_records hs').1, Batches.remove_returns hremove, hs₂, hs₁]

/-- **A commit that throws** takes its batch away only if it has expired. -/
lemma commit_refusedBatches {e : Refusal} (h : (commit quizId importId origin).Throws s e s') :
    RefusedBatches quizId importId s e s' := by
  cases commit_throws h with
  | revalidation hrevalidate =>
    rcases revalidate_throws hrevalidate with hfailure | ⟨-, hexpired, -, hrecords⟩
    · exact hfailure.batches
    · exact .inr ⟨(Site.batches_of_records hrecords).1, hexpired⟩
  | errors hrevalidate _ =>
    exact .inr ⟨(Site.batches_of_records (revalidate_returns hrevalidate).2).1, by simp⟩
  | @changes quiz batch run e s₁ s₂ _ hrevalidate _ hcommit hs' =>
    have hs₂ : s₂.batches = s₁.batches :=
      congrArg (·.batches) ((commitChanges_frames _).throws hcommit)
    refine .inr ⟨?_, by simp⟩
    rw [(Site.batches_of_records hs').1, hs₂,
      (Site.batches_of_records (revalidate_returns hrevalidate).2).1]
  | @removal quiz batch run total e s₁ s₂ _ hrevalidate _ hcommit hremove =>
    have hs₂ : s₂.batches = s₁.batches :=
      congrArg (·.batches) ((commitChanges_frames _).returns hcommit)
    have hs' : s'.batches = s₂.batches := congrArg (·.batches) (Batches.remove_throws hremove).2
    refine .inr ⟨?_, by simp⟩
    rw [hs', hs₂, (Site.batches_of_records (revalidate_returns hrevalidate).2).1]

/-- **A discard that returns** takes its batch away. -/
lemma discard_removes {u : Unit} (h : (discard quizId importId).Returns s u s') :
    ∃ batch ∈ s.batches, batch.NamedBy quizId importId ∧
      s'.batches = s.batches.filter fun b => b.id ≠ batch.id := by
  obtain ⟨batch, s₁, s₂, hfound, hs₁, hremove, hs'⟩ := discard_returns h
  obtain ⟨hmem, hnamed⟩ := hfound.namedBy
  refine ⟨batch, hmem, hnamed, ?_⟩
  rw [(Site.batches_of_records hs').1, Batches.remove_returns hremove,
    show s₁.batches = s.batches from congrArg (·.batches) hs₁]

/-- **A discard that throws** takes its batch away only if it has expired. -/
lemma discard_refusedBatches {e : Refusal} (h : (discard quizId importId).Throws s e s') :
    RefusedBatches quizId importId s e s' := by
  rcases discard_throws h with hfailure | ⟨-, ⟨err, rfl⟩, -, hs'⟩
  · exact hfailure.batches
  · exact .inr ⟨congrArg (·.batches) hs', by simp⟩

end ImportService

/-! ### Requests -/

/-- **What a request does to the batches**, by what it comes to. -/
inductive Request.BatchEffect (r : Request) (s : Site) : Except Refusal Answer → Site → Prop where
  /-- The batches are left alone. -/
  | left {result : Except Refusal Answer} {s' : Site} (hbatches : s'.batches = s.batches)
      (hcount : s'.batchCount = s.batchCount)
      (hanswer : ∀ a, result = .ok a → ∃ d, a = .template d)
      (hexpired : ∀ about, r.about? = some about → ∀ id, result ≠ .error (.importExpired id)) :
      r.BatchEffect s result s'
  /-- A preview adds a batch under the next identifier, which it returns. -/
  | previewed {p : Preview} {batch : Batch} {s' : Site} (hquiz : r.quizId = .given batch.quizId)
      (hnew : p.importId = Batches.generatedId (s.batchCount + 1)) (hid : batch.id = p.importId)
      (hbatches : s'.batches = putRow Batch.id batch s.batches)
      (hcount : s'.batchCount = s.batchCount + 1) : r.BatchEffect s (.ok (.preview p)) s'
  /-- A commit takes its batch away. -/
  | committed {quizId importId : Field String} {origin : RequestOrigin} {total : CommitSummary}
      {batch : Batch} {s' : Site} (hr : r = .commit quizId importId origin)
      (hmem : batch ∈ s.batches) (hnamed : batch.NamedBy quizId importId)
      (hbatches : s'.batches = s.batches.filter fun b => b.id ≠ batch.id)
      (hcount : s'.batchCount = s.batchCount) : r.BatchEffect s (.ok (.committed total)) s'
  /-- A discard takes its batch away. -/
  | discarded {quizId importId : Field String} {batch : Batch} {s' : Site}
      (hr : r = .discard quizId importId) (hmem : batch ∈ s.batches)
      (hnamed : batch.NamedBy quizId importId)
      (hbatches : s'.batches = s.batches.filter fun b => b.id ≠ batch.id)
      (hcount : s'.batchCount = s.batchCount) : r.BatchEffect s (.ok .discarded) s'
  /-- A commit or a discard finds its batch expired and takes it away. -/
  | expired {quizId importId : Field String} {batch : Batch} {s' : Site}
      (habout : r.about? = some (quizId, importId)) (hmem : batch ∈ s.batches)
      (hnamed : batch.NamedBy quizId importId)
      (hexpired : Batches.isExpired s.options s.clock batch = true)
      (hbatches : s'.batches = s.batches.filter fun b => b.id ≠ batch.id)
      (hcount : s'.batchCount = s.batchCount) :
      r.BatchEffect s (.error (.importExpired batch.id)) s'

/-- What is done to the batches does not depend on the rest of the site. -/
lemma Request.BatchEffect.congr {r : Request} {s s₁ s₂ : Site} {result : Except Refusal Answer}
    (h : r.BatchEffect s result s₁) (hbatches : s₂.batches = s₁.batches)
    (hcount : s₂.batchCount = s₁.batchCount) : r.BatchEffect s result s₂ := by
  cases h with
  | left hb hc hanswer hexpired =>
    exact .left (hbatches.trans hb) (hcount.trans hc) hanswer hexpired
  | previewed hquiz hnew hid hb hc =>
    exact .previewed hquiz hnew hid (hbatches.trans hb) (hcount.trans hc)
  | committed hr hmem hnamed hb hc =>
    exact .committed hr hmem hnamed (hbatches.trans hb) (hcount.trans hc)
  | discarded hr hmem hnamed hb hc =>
    exact .discarded hr hmem hnamed (hbatches.trans hb) (hcount.trans hc)
  | expired habout hmem hnamed hexpired hb hc =>
    exact .expired habout hmem hnamed hexpired (hbatches.trans hb) (hcount.trans hc)

/-- The effect of a refused commit or discard. -/
lemma RefusedBatches.batchEffect {r : Request} {quizId importId : Field String} {s s' : Site}
    {e : Refusal} (h : RefusedBatches quizId importId s e s')
    (habout : r.about? = some (quizId, importId)) (hcount : s'.batchCount = s.batchCount) :
    r.BatchEffect s (.error e) s' := by
  rcases h with ⟨batch, hmem, hnamed, hexpired, rfl, hbatches⟩ | ⟨hbatches, hnot⟩
  · exact .expired habout hmem hnamed hexpired hbatches hcount
  · exact .left hbatches hcount (by simp) fun _ _ id h => hnot id (Except.error.inj h)

/-- A preview adds a batch, or leaves them alone. -/
lemma Request.preview_batchEffect (quizId : Field String) (file : Option Upload) (form : ImportForm)
    (origin : RequestOrigin) (s : Site) :
    (preview quizId file form origin).BatchEffect s
      (runOn (preview quizId file form origin).answer.run s).1
      (runOn (preview quizId file form origin).answer.run s).2 := by
  have hleft {e : Refusal} {s' : Site} (hrecords : s'.records = s.records) :
      (preview quizId file form origin).BatchEffect s (.error e) s' := by
    obtain ⟨hbatches, hcount⟩ := Site.batches_of_records hrecords
    exact .left hbatches hcount (by simp) (by simp [about?])
  unfold answer
  rw [runOn_run_bind]
  have hupload := acceptUpload_frames file s
  rcases haccept : runOn (acceptUpload file).run s with ⟨e | bytes, s₁⟩ <;> rw [haccept] at hupload
  · exact hleft hupload
  · dsimp only
    rw [runOn_run_bind]
    rcases returns_or_throws (ImportService.preview quizId bytes form origin) s₁ with
      ⟨p, s', h⟩ | ⟨e, s', h⟩ <;>
      rw [show runOn (ImportService.preview quizId bytes form origin).run s₁ = _ from h]
    · obtain ⟨quiz, content, run, hexamined, hp, hs'⟩ := ImportService.preview_returns h
      have hkept : s'.records = (s.withBatch (s.newBatch quiz.id form.mode form.delimiter content
          run.generatedPasswords)).records :=
        hs'.trans (Site.congr_of_mask (fun s => (s.withBatch (s.newBatch quiz.id form.mode
          form.delimiter content run.generatedPasswords)).records) hupload fun _ => rfl)
      obtain ⟨hbatches, hcount⟩ := Site.batches_of_records hkept
      have hnew : p.importId = Batches.generatedId (s.batchCount + 1) := by
        rw [hp, show s₁.batchCount = s.batchCount from (Site.batches_of_records hupload).2]
      have hquiz : quizId = .given (s.newBatch quiz.id form.mode form.delimiter content
          run.generatedPasswords).quizId := ImportService.given_of_quiz? hexamined.quiz
      exact .previewed hquiz hnew hnew.symm hbatches hcount
    · exact hleft ((ImportService.preview_throws h).trans hupload)

/-- **Every request does one of these things** to the batches. -/
theorem Request.batchEffect (r : Request) (s : Site) :
    r.BatchEffect s (runOn r.answer.run s).1 (runOn r.answer.run s).2 := by
  cases r with
  | preview quizId file form origin => exact preview_batchEffect quizId file form origin s
  | commit quizId importId origin =>
    have hcount := (ImportService.commit_spares quizId importId origin s).batchCount
    unfold answer
    rw [runOn_run_bind]
    rcases hrun : runOn (ImportService.commit quizId importId origin).run s with ⟨e | total, s'⟩ <;>
      rw [hrun] at hcount
    · exact (ImportService.commit_refusedBatches hrun).batchEffect rfl hcount
    · obtain ⟨batch, hmem, hnamed, hbatches⟩ := ImportService.commit_removes hrun
      exact .committed rfl hmem hnamed hbatches hcount
  | discard quizId importId =>
    have hcount := (ImportService.discard_sheds quizId importId s).batchCount
    unfold answer
    rw [runOn_run_bind]
    rcases hrun : runOn (ImportService.discard quizId importId).run s with ⟨e | u, s'⟩ <;>
      rw [hrun] at hcount
    · exact (ImportService.discard_refusedBatches hrun).batchEffect rfl hcount
    · obtain ⟨batch, hmem, hnamed, hbatches⟩ := ImportService.discard_removes hrun
      exact .discarded rfl hmem hnamed hbatches hcount
  | template quizId mode =>
    obtain ⟨hbatches, hcount⟩ :=
      Site.batches_of_records (ImportService.template_frames quizId mode s)
    unfold answer
    rw [runOn_run_bind]
    rcases hrun : runOn (ImportService.template quizId mode).run s with ⟨e | d, s'⟩ <;>
      rw [hrun] at hbatches hcount
    · exact .left hbatches hcount (by simp) (by simp [about?])
    · refine .left hbatches hcount (fun a ha => ⟨d.download, ?_⟩) (by simp [about?])
      exact (Except.ok.inj ha).symm

/-- **Only commits write overrides.** -/
theorem Request.overrides_of_ne_commit {r : Request}
    (hr : ∀ quizId importId origin, r ≠ .commit quizId importId origin) (s : Site) :
    (runOn r.answer.run s).2.overrides = s.overrides := by
  cases r with
  | preview quizId file form origin =>
    unfold answer
    rw [runOn_run_bind]
    have hupload := acceptUpload_frames file s
    rcases haccept : runOn (acceptUpload file).run s with ⟨e | bytes, s₁⟩ <;>
      rw [haccept] at hupload
    · exact congrArg (·.overrides) hupload
    · dsimp only
      rw [runOn_run_map]
      refine Eq.trans ?_ (congrArg (·.overrides) hupload)
      rcases returns_or_throws (ImportService.preview quizId bytes form origin) s₁ with
        ⟨p, s', h⟩ | ⟨e, s', h⟩ <;>
        rw [show runOn (ImportService.preview quizId bytes form origin).run s₁ = _ from h]
      · obtain ⟨_, _, _, -, -, hs'⟩ := ImportService.preview_returns h
        exact congrArg (·.overrides) hs'
      · exact congrArg (·.overrides) (ImportService.preview_throws h)
  | commit => exact absurd rfl (hr _ _ _)
  -- a discard takes batches away, and a template only reads
  | discard quizId importId =>
    unfold answer
    rw [runOn_run_map]
    exact congrArg (·.overrides) (ImportService.discard_sheds quizId importId s).unbatched
  | template quizId mode =>
    unfold answer
    rw [runOn_run_map]
    exact congrArg (·.overrides) (ImportService.template_frames quizId mode s)

/-- **A commit or a discard without a batch** is refused, and changes nothing. Unless a fault has
struck, it is told that something was not found. -/
theorem Request.throws_of_not_named {r : Request} {quizId importId : Field String} {s : Site}
    (habout : r.about? = some (quizId, importId))
    (hnone : ∀ batch ∈ s.batches, ¬batch.NamedBy quizId importId) :
    ∃ e s', r.answer.Throws s e s' ∧ s'.still = s.still ∧ (s.Unstruck s' → e.IsNotFound) := by
  cases r with
  | preview | template => simp [about?] at habout
  | commit quizId' importId' origin =>
    obtain ⟨rfl, rfl⟩ := Prod.mk.inj (Option.some.inj habout)
    obtain ⟨e, s', hthrows, htold⟩ := ImportService.commit_of_not_named origin hnone
    exact ⟨e, s', throws_bind.mpr (.inl hthrows), htold⟩
  | discard quizId' importId' =>
    obtain ⟨rfl, rfl⟩ := Prod.mk.inj (Option.some.inj habout)
    obtain ⟨e, s', hthrows, htold⟩ := ImportService.discard_of_not_named hnone
    exact ⟨e, s', throws_bind.mpr (.inl hthrows), htold⟩

end QuizOverrides
