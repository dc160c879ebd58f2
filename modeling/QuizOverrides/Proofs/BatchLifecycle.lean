import QuizOverrides.Proofs.BatchSteps
import QuizOverrides.Proofs.PreviewCommit
import QuizOverrides.Proofs.Rounding

set_option autoImplicit false

/-!
# The life of a batch

A batch comes into being with a preview and leaves by a commit that returns, by a discard that
returns, or because a commit or a discard finds it too old. Its identifier is never generated again,
so from then on every commit and every discard of it is told that it was not found.

## Main definitions

* `QuizOverrides.Batch.Outlived` — a batch is too old, to the millisecond.
* `QuizOverrides.SessionStep`, `QuizOverrides.sessionSteps` — the steps of a session.
* `QuizOverrides.Site.Numbered` — the batches of a site have different generated identifiers.
* `QuizOverrides.Site.FreshBatches` — the identifiers that batches are to be given are free.
* `QuizOverrides.Site.Gone` — an identifier has been generated and has no batch.
* `QuizOverrides.Site.FreshIds` — identifiers are those of a database.
* `QuizOverrides.Departure` — how a batch leaves.
* `QuizOverrides.BatchLifecycle` — what the steps of a session do to batches.

## Main results

* `QuizOverrides.Batch.outlived_of_isExpired` — rounding lets no batch expire too early.
* `QuizOverrides.SessionStep.departure` — batches leave in no other way.
* `QuizOverrides.batchLifecycle` — the life of the batches of a session.
-/

namespace QuizOverrides

open QuizOverrides.Action Calendar

/-! ### Age -/

/-- **A batch is older than the site allows**, in whole milliseconds. Clocks and settings may be
beyond all bounds. Without a time of creation a batch has no age. -/
def Batch.Outlived (batch : Batch) (options : ImportOptions) (now : ClockReading) : Prop :=
  ∃ created, batch.createdAt = some created ∧
    match now, options.batchMinutes with
    | some (.finite n), .finite minutes => minutes * Instant.perMinute < n - created
    | some (.finite _), .beyond negative => negative = true
    | some (.beyond negative), .finite _ => negative = false
    | some (.beyond negative), .beyond negative' => negative = false ∧ negative' = true
    | none, _ => False

/-- **A batch expires only when it is too old**, although its age and the time allowed are both
rounded. -/
theorem Batch.outlived_of_isExpired {batch : Batch} {options : ImportOptions} {now : ClockReading}
    (h : Batches.isExpired options now batch = true) : batch.Outlived options now := by
  unfold Batches.isExpired Batches.age Batches.lifetime ClockReading.since at h
  rcases hcreated : batch.createdAt with _ | created <;>
    simp only [hcreated, ClockReading.ofInstant?, Option.map_none, Option.map_some] at h
  · rcases now with _ | n <;> simp [ClockReading.advance] at h
  · refine ⟨created, hcreated, ?_⟩
    rcases now with _ | n | negative <;>
      rcases hminutes : options.batchMinutes with k | negative' <;>
      simp only [hminutes, ClockReading.advance, Whole.neg, Whole.add?, Whole.times,
        Option.any_some, Option.any_none, Bool.false_eq_true] at h ⊢
    · rw [← Int.sub_eq_add_neg] at h
      exact Whole.lt_of_less_ofInt h
    · exact (Bool.and_eq_true_iff.mp h).1
    · generalize Whole.ofInt _ = lifetime at h
      rcases lifetime with v | negative'
      · simpa [Whole.less] using h
      · obtain ⟨-, hhigh⟩ := Bool.and_eq_true_iff.mp h
        simpa using hhigh
    · obtain ⟨hlow, hhigh⟩ := Bool.and_eq_true_iff.mp h
      exact ⟨by simpa using hhigh, hlow⟩

/-! ### The steps of a session -/

/-- **A step of a session**: an event, the site that it finds, its outcome and the site that it
leaves. -/
structure SessionStep where
  before : Site
  event : Event
  outcome : Outcome
  after : Site
  runs : runOn event.run before = (outcome, after)

/-- The step that an event makes at a site. -/
def Event.stepFrom (e : Event) (s : Site) : SessionStep :=
  ⟨s, e, (runOn e.run s).1, (runOn e.run s).2, rfl⟩

/-- **The steps of a session**, one for each of its events. -/
def sessionSteps : Site → List Event → List SessionStep
  | _, [] => []
  | s, e :: rest => e.stepFrom s :: sessionSteps (e.stepFrom s).after rest

/-- **A session is the run of its steps**: their outcomes, and the site that the last of them
leaves. -/
lemma runOn_runSession (s : Site) (events : List Event) :
    runOn (runSession events) s = ((sessionSteps s events).map SessionStep.outcome,
      ((sessionSteps s events).map SessionStep.after).getLastD s) := by
  induction events generalizing s with
  | nil => rfl
  | cons e rest ih =>
    unfold runSession sessionSteps
    rw [runOn_bind, runOn_bind, ih, List.map_cons, List.map_cons, List.getLastD_cons]
    rfl

/-- What comes after a step of a session is a session as well. -/
lemma exists_of_sessionSteps_eq {s : Site} {events : List Event} {earlier later : List SessionStep}
    {step : SessionStep} (h : sessionSteps s events = earlier ++ step :: later) :
    ∃ rest, later = sessionSteps step.after rest := by
  induction earlier generalizing s events with
  | nil =>
    cases events with
    | nil => simp [sessionSteps] at h
    | cons e rest =>
      obtain ⟨rfl, rfl⟩ := List.cons.inj h
      exact ⟨rest, rfl⟩
  | cons first earlier ih =>
    cases events with
    | nil => simp [sessionSteps] at h
    | cons e rest => exact ih (List.cons.inj h).2

/-- **What the steps of a kind of events keep** holds before every step of a session of such events,
if it holds at first. -/
lemma before_of_mem_sessionSteps_of_events {I : Site → Prop} {P : Event → Prop}
    (hkeeps : ∀ step : SessionStep, P step.event → I step.before → I step.after) {s : Site}
    (hs : I s) {events : List Event} (hevents : ∀ e ∈ events, P e) {step : SessionStep}
    (h : step ∈ sessionSteps s events) : I step.before ∧ P step.event := by
  induction events generalizing s with
  | nil => simp [sessionSteps] at h
  | cons e rest ih =>
    obtain ⟨he, hrest⟩ := List.forall_mem_cons.mp hevents
    rcases List.mem_cons.mp h with rfl | h
    · exact ⟨hs, he⟩
    · exact ih (hkeeps (e.stepFrom s) he hs) hrest h

/-- **What every step keeps** holds before every step of a session, if it holds at first. -/
lemma before_of_mem_sessionSteps {I : Site → Prop}
    (hkeeps : ∀ step : SessionStep, I step.before → I step.after) {s : Site} (hs : I s)
    {events : List Event} {step : SessionStep} (h : step ∈ sessionSteps s events) :
    I step.before :=
  (before_of_mem_sessionSteps_of_events (P := fun _ => True) (fun step _ => hkeeps step) hs
    (fun _ _ => trivial) h).1

/-- The quiz and the import that an event is about, if it asks for a commit or a discard. Over HTTP
it does so only if its address can be read. -/
def Event.about? (e : Event) : Option (Field String × Field String) :=
  e.request?.bind Request.about?

/-- An event that is a request is about what the request is about. -/
lemma Event.about?_of_request {e : Event} {r : Request} (h : e.request? = some r) :
    e.about? = r.about? := by
  unfold about?
  rw [h]
  rfl

namespace SessionStep

/-- The identifier that a preview has returned. -/
def previewed? (step : SessionStep) : Option String :=
  match step.outcome.answer? with
  | some (.preview p) => some p.importId
  | _ => none

/-- The identifier for which a commit has been asked that has returned. -/
def committed? (step : SessionStep) : Option (Field String) :=
  match step.event.request?, step.outcome.answer? with
  | some (.commit _ importId _), some (.committed _) => some importId
  | _, _ => none

/-- The service has refused what the step has asked for. -/
def Refuses (step : SessionStep) (e : Refusal) : Prop :=
  ∃ r s', step.event.request? = some r ∧ r.answer.Throws step.before e s'

/-- **A request has been turned away**: nothing has changed, and unless a fault has struck the
client is told that something was not found. -/
structure TurnedAway (step : SessionStep) : Prop where
  stored : step.after.stored = step.before.stored
  told : step.before.Unstruck step.after → step.outcome.IsNotFound

/-- **A commit or a discard does not name a batch.** -/
inductive Misnamed (step : SessionStep) : Prop where
  /-- What it names has not the form of an identifier. -/
  | malformed {quizId importId : Field String}
      (habout : step.event.about? = some (quizId, importId)) (hform : issuedId? importId = none)
  /-- There is no batch with the identifier. -/
  | unknown {quizId : Field String} {id : String}
      (habout : step.event.about? = some (quizId, .given id))
      (hnone : ∀ batch ∈ step.before.batches, batch.id ≠ id)
  /-- The batch with the identifier belongs to another quiz. -/
  | elsewhere {quizId : Field String} {batch : Batch} (hmem : batch ∈ step.before.batches)
      (habout : step.event.about? = some (quizId, .given batch.id))
      (hquiz : quizId ≠ .given batch.quizId)

end SessionStep

/-- **How a batch leaves**: it has been committed, it has been discarded, or a commit or a discard
has found it too old and has been told that it was not found. -/
inductive Departure (step : SessionStep) (batch : Batch) : Prop where
  | committed {quizId importId : Field String} {origin : RequestOrigin} {total : CommitSummary}
      (hrequest : step.event.request? = some (.commit quizId importId origin))
      (hnamed : batch.NamedBy quizId importId)
      (hanswer : step.outcome.answer? = some (.committed total))
  | discarded {quizId importId : Field String}
      (hrequest : step.event.request? = some (.discard quizId importId))
      (hnamed : batch.NamedBy quizId importId) (hanswer : step.outcome.answer? = some .discarded)
  | expired {quizId importId : Field String} (habout : step.event.about? = some (quizId, importId))
      (hnamed : batch.NamedBy quizId importId)
      (houtlived : batch.Outlived step.before.options step.before.clock)
      (hrefuses : step.Refuses (.importExpired batch.id)) (htold : step.outcome.IsNotFound)

/-! ### What a step does -/

namespace SessionStep

variable {step : SessionStep}

/-- **What a step does to the batches**, by the request that it makes. -/
inductive Effect (step : SessionStep) : Prop where
  | idle (hrequest : step.event.request? = none) (hanswer : step.outcome.answer? = none)
      (hbatches : step.after.batches = step.before.batches)
      (hcount : step.after.batchCount = step.before.batchCount)
  | asks {r : Request} {result : Except Refusal Answer} {s' : Site}
      (hrequest : step.event.request? = some r)
      (hrun : runOn r.answer.run step.before = (result, s')) (hshows : step.outcome.Shows result)
      (hstored : step.after.stored = s'.stored) (hfaults : step.after.faults = s'.faults)
      (heffect : r.BatchEffect step.before result step.after)

/-- **Every step has one of the listed effects** on the batches. -/
theorem effect (step : SessionStep) : step.Effect := by
  obtain ⟨s, e, outcome, s', hruns⟩ := step
  rcases hrequest : e.request? with _ | r
  · obtain ⟨hanswer, hbatches, hcount⟩ := e.run_of_no_request hrequest s
    rw [hruns] at hanswer hbatches hcount
    exact .idle hrequest hanswer hbatches hcount
  · obtain ⟨hshows, hstored, hfaults⟩ := e.run_of_request hrequest s
    rw [hruns] at hshows hstored hfaults
    obtain ⟨hbatches, hcount⟩ := Site.batches_of_stored hstored
    exact .asks hrequest rfl hshows hstored hfaults ((r.batchEffect s).congr hbatches hcount)

/-- What the service refuses is what the request of the step has come to. -/
lemma Refuses.asks {e : Refusal} (h : step.Refuses e) :
    ∃ r, step.event.request? = some r ∧ r.BatchEffect step.before (.error e) step.after := by
  obtain ⟨r, s', hrequest, hthrows⟩ := h
  cases step.effect with
  | idle hnone => simp [hrequest] at hnone
  | asks hrequest' hrun _ _ _ heffect =>
    obtain rfl := Option.some.inj (hrequest'.symm.trans hrequest)
    obtain ⟨rfl, -⟩ := Prod.mk.inj (hrun.symm.trans hthrows)
    exact ⟨_, hrequest, heffect⟩

end SessionStep

/-! ### Identifiers -/

/-- **The batches of a site** have generated identifiers, and no two of them the same. -/
structure Site.Numbered (s : Site) : Prop where
  generated : ∀ batch ∈ s.batches, ∃ n ≤ s.batchCount, batch.id = Batches.generatedId n
  unique : ∀ batch ∈ s.batches, ∀ batch' ∈ s.batches, batch.id = batch'.id → batch = batch'

/-- **The identifier has been generated and has no batch.** -/
structure Site.Gone (s : Site) (id : String) : Prop where
  generated : ∃ n ≤ s.batchCount, id = Batches.generatedId n
  none : ∀ batch ∈ s.batches, batch.id ≠ id

/-- Identifiers to be generated have not been generated before. -/
lemma Site.generatedId_ne {s : Site} {id : String} {m : Nat}
    (h : ∃ n ≤ s.batchCount, id = Batches.generatedId n) (hm : s.batchCount < m) :
    id ≠ Batches.generatedId m := by
  rintro rfl
  obtain ⟨n, hn, hid⟩ := h
  have hsame := Batches.generatedId_injective hid
  omega

/-- The next identifier has not been generated. -/
lemma Site.next_ne {s : Site} {id : String} (h : ∃ n ≤ s.batchCount, id = Batches.generatedId n) :
    id ≠ Batches.generatedId (s.batchCount + 1) :=
  Site.generatedId_ne h (Nat.lt_succ_self _)

/-- **The identifiers that batches are to be given are free.** -/
def Site.FreshBatches (s : Site) : Prop :=
  ∀ m, s.batchCount < m → ∀ batch ∈ s.batches, batch.id ≠ Batches.generatedId m

/-- They are, where all identifiers of batches have been generated. -/
lemma Site.Numbered.freshBatches {s : Site} (h : s.Numbered) : s.FreshBatches :=
  fun _ hm batch hbatch => Site.generatedId_ne (h.generated batch hbatch) hm

/-- A batch with the next identifier comes after all others. -/
lemma Site.FreshBatches.putRow_eq {s : Site} (h : s.FreshBatches) {batch : Batch}
    (hid : batch.id = Batches.generatedId (s.batchCount + 1)) :
    putRow Batch.id batch s.batches = s.batches ++ [batch] :=
  putRow_of_fresh fun b hb => hid ▸ h _ (Nat.lt_succ_self _) b hb

/-- **Identifiers are those of a database**: those of overrides are different, and those that
overrides and batches are to be given are free. -/
structure Site.FreshIds (s : Site) : Prop where
  ids_nodup : (s.overrides.map Override.id).Nodup
  freshOverrides : Fresh s.overrideCount s.overrides
  freshBatches : s.FreshBatches

/-- **What may happen to the batches of a site**: nothing, a new one, or one less. -/
inductive Site.BatchChange (s s' : Site) : Prop where
  | kept (hbatches : s'.batches = s.batches) (hcount : s'.batchCount = s.batchCount)
  | added {batch : Batch} (hid : batch.id = Batches.generatedId (s.batchCount + 1))
      (hbatches : s'.batches = putRow Batch.id batch s.batches)
      (hcount : s'.batchCount = s.batchCount + 1)
  | removed {batch : Batch} (hmem : batch ∈ s.batches)
      (hbatches : s'.batches = s.batches.filter fun b => b.id ≠ batch.id)
      (hcount : s'.batchCount = s.batchCount)

namespace Site.BatchChange

variable {s s' : Site}

/-- The count of batches never goes back. -/
lemma batchCount_le (h : s.BatchChange s') : s.batchCount ≤ s'.batchCount := by
  cases h <;> omega

/-- What has been generated stays so. -/
lemma generated (h : s.BatchChange s') {id : String}
    (hid : ∃ n ≤ s.batchCount, id = Batches.generatedId n) :
    ∃ n ≤ s'.batchCount, id = Batches.generatedId n := by
  obtain ⟨n, hn, hid⟩ := hid
  exact ⟨n, Nat.le_trans hn h.batchCount_le, hid⟩

/-- **Batches stay numbered.** -/
theorem numbered (h : s.BatchChange s') (hs : s.Numbered) : s'.Numbered := by
  have hgenerated {b : Batch} (hb : b ∈ s.batches) :
      ∃ n ≤ s'.batchCount, b.id = Batches.generatedId n := h.generated (hs.generated b hb)
  cases h with
  | kept hbatches _ =>
    constructor
    · exact fun b hb => hgenerated (hbatches ▸ hb)
    · rw [hbatches]
      exact hs.unique
  | @added batch hid hbatches hcount =>
    constructor
    · intro b hb
      rw [hbatches] at hb
      rcases mem_putRow hb with rfl | hb
      · exact ⟨_, Nat.le_of_eq hcount.symm, hid⟩
      · exact hgenerated hb
    · intro b hb b' hb' hsame
      rw [hbatches] at hb hb'
      -- two batches with the new identifier are the new one, and the others are old ones
      by_cases hnew : b'.id = batch.id
      · rw [eq_of_mem_putRow hb (hsame.trans hnew), eq_of_mem_putRow hb' hnew]
      · refine hs.unique b ?_ b' ?_ hsame
        · exact (mem_putRow hb).resolve_left fun heq => hnew (by rw [← hsame, heq])
        · exact (mem_putRow hb').resolve_left fun heq => hnew (by rw [heq])
  | removed _ hbatches _ =>
    have hold {b : Batch} (hb : b ∈ s'.batches) : b ∈ s.batches := by
      rw [hbatches] at hb
      exact (List.mem_filter.mp hb).1
    constructor
    · exact fun b hb => hgenerated (hold hb)
    · exact fun b hb b' hb' => hs.unique b (hold hb) b' (hold hb')

/-- **What is gone stays gone.** -/
theorem gone (h : s.BatchChange s') {id : String} (hs : s.Gone id) : s'.Gone id := by
  refine ⟨h.generated hs.generated, fun b hb => ?_⟩
  cases h with
  | kept hbatches _ => exact hs.none b (hbatches ▸ hb)
  | added hid hbatches _ =>
    rw [hbatches] at hb
    rcases mem_putRow hb with rfl | hb
    · rw [hid]
      exact (Site.next_ne hs.generated).symm
    · exact hs.none b hb
  | removed _ hbatches _ =>
    rw [hbatches] at hb
    exact hs.none b (List.mem_filter.mp hb).1

end Site.BatchChange

/-- The identifier of a removed batch is gone. -/
lemma Site.Numbered.gone_of_removed {s s' : Site} (hs : s.Numbered) {batch : Batch}
    (hmem : batch ∈ s.batches) (hbatches : s'.batches = s.batches.filter fun b => b.id ≠ batch.id)
    (hcount : s'.batchCount = s.batchCount) : s'.Gone batch.id where
  generated := by
    rw [hcount]
    exact hs.generated batch hmem
  none b hb := by
    rw [hbatches] at hb
    exact of_decide_eq_true (List.mem_filter.mp hb).2

namespace SessionStep

variable {step : SessionStep}

/-- **Every step changes the batches** in one of the listed ways. -/
theorem batchChange (step : SessionStep) : step.before.BatchChange step.after := by
  cases step.effect with
  | idle _ _ hbatches hcount => exact .kept hbatches hcount
  | asks _ _ _ _ _ heffect =>
    cases heffect with
    | left hbatches hcount => exact .kept hbatches hcount
    | previewed _ hnew hid hbatches hcount => exact .added (hid.trans hnew) hbatches hcount
    | committed _ hmem _ hbatches hcount | discarded _ hmem _ hbatches hcount
    | expired _ hmem _ _ hbatches hcount => exact .removed hmem hbatches hcount

/-- Batches are numbered all through a session that begins without batches. -/
lemma numbered_of_mem_sessionSteps {start : Site} {events : List Event}
    (hstart : start.batches = []) (hstep : step ∈ sessionSteps start events) :
    step.before.Numbered :=
  before_of_mem_sessionSteps (fun step h => step.batchChange.numbered h)
    ⟨by simp [hstart], by simp [hstart]⟩ hstep

/-- **A preview returns the next identifier.** -/
lemma of_previewed {id : String} (h : step.previewed? = some id) :
    id = Batches.generatedId (step.before.batchCount + 1) ∧
      step.after.batchCount = step.before.batchCount + 1 := by
  unfold previewed? at h
  split at h
  · rename_i p hpreview
    obtain rfl := Option.some.inj h
    cases step.effect with
    | idle _ hanswer => simp [hpreview] at hanswer
    | asks _ _ hshows _ _ heffect =>
      obtain rfl := hshows.eq_ok hpreview
      cases heffect with
      | left _ _ hanswer => simpa using hanswer _ rfl
      | previewed _ hnew _ _ hcount => exact ⟨hnew, hcount⟩
  · simp at h

/-- **A commit that returns** has removed its batch. -/
lemma of_committed (hs : step.before.Numbered) {importId : Field String}
    (h : step.committed? = some importId) :
    ∃ batch ∈ step.before.batches, importId = .given batch.id ∧ step.after.Gone batch.id := by
  unfold committed? at h
  split at h
  · rename_i quizId importId' origin total hcommit hcommitted
    obtain rfl := Option.some.inj h
    cases step.effect with
    | idle hrequest => simp [hcommit] at hrequest
    | asks hrequest _ hshows _ _ heffect =>
      obtain rfl := Option.some.inj (hrequest.symm.trans hcommit)
      obtain rfl := hshows.eq_ok hcommitted
      cases heffect with
      | left _ _ hanswer => simpa using hanswer _ rfl
      | committed hr hmem hnamed hbatches hcount =>
        obtain ⟨rfl, rfl, rfl⟩ := Request.commit.inj hr
        exact ⟨_, hmem, given_of_issuedId? hnamed.1, hs.gone_of_removed hmem hbatches hcount⟩
  · simp at h

/-- **Batches leave in no other way**, and their identifiers are gone. -/
theorem departure (hs : step.before.Numbered) {batch : Batch} (hmem : batch ∈ step.before.batches)
    (hleft : batch ∉ step.after.batches) : Departure step batch ∧ step.after.Gone batch.id := by
  -- a batch that is not among those with another identifier is the one that has been removed
  have hremoved {b : Batch} (hb : b ∈ step.before.batches)
      (hbatches : step.after.batches = step.before.batches.filter fun b' => b'.id ≠ b.id) :
      batch = b := by
    refine hs.unique batch hmem b hb (Decidable.not_not.mp fun hne => hleft ?_)
    rw [hbatches]
    exact List.mem_filter.mpr ⟨hmem, decide_eq_true hne⟩
  cases step.effect with
  | idle _ _ hbatches => exact absurd (hbatches ▸ hmem) hleft
  | asks hrequest hrun hshows _ _ heffect =>
    cases heffect with
    | left hbatches => exact absurd (hbatches ▸ hmem) hleft
    | previewed _ hnew hid hbatches =>
      have hne := hs.freshBatches _ (Nat.lt_succ_self _) batch hmem
      rw [← hnew, ← hid] at hne
      rw [hbatches] at hleft
      exact absurd (mem_putRow_of_ne hmem hne) hleft
    | committed hr hb hnamed hbatches hcount =>
      obtain rfl := hremoved hb hbatches
      refine ⟨.committed (hr ▸ hrequest) hnamed hshows.answer?_eq, ?_⟩
      exact hs.gone_of_removed hmem hbatches hcount
    | discarded hr hb hnamed hbatches hcount =>
      obtain rfl := hremoved hb hbatches
      refine ⟨.discarded (hr ▸ hrequest) hnamed hshows.answer?_eq, ?_⟩
      exact hs.gone_of_removed hmem hbatches hcount
    | expired habout hb hnamed hexpired hbatches hcount =>
      obtain rfl := hremoved hb hbatches
      have houtlived := Batch.outlived_of_isExpired hexpired
      refine ⟨.expired ((Event.about?_of_request hrequest).trans habout) hnamed houtlived
        ⟨_, _, hrequest, hrun⟩ (hshows.isNotFound rfl), ?_⟩
      exact hs.gone_of_removed hmem hbatches hcount

/-- **A commit or a discard without a batch is turned away.** -/
theorem turnedAway {quizId importId : Field String}
    (habout : step.event.about? = some (quizId, importId))
    (hnone : ∀ batch ∈ step.before.batches, ¬batch.NamedBy quizId importId) : step.TurnedAway := by
  obtain ⟨r, hr, habout⟩ := Option.bind_eq_some_iff.mp habout
  obtain ⟨e, s', hthrows, hstill, htold⟩ := r.throws_of_not_named habout hnone
  cases step.effect with
  | idle hrequest => simp [hr] at hrequest
  | asks hrequest hrun hshows hstored hfaults _ =>
    obtain rfl := Option.some.inj (hrequest.symm.trans hr)
    obtain ⟨rfl, rfl⟩ := Prod.mk.inj (hrun.symm.trans hthrows)
    refine ⟨hstored.trans (Site.stored_of_still hstill), fun hunstruck => ?_⟩
    unfold Site.Unstruck at hunstruck
    rw [hfaults] at hunstruck
    exact hshows.isNotFound (htold hunstruck)

/-- What has gone is turned away. -/
lemma turnedAway_of_gone {quizId : Field String} {id : String} (hgone : step.before.Gone id)
    (habout : step.event.about? = some (quizId, .given id)) : step.TurnedAway :=
  turnedAway habout fun batch hmem hnamed => hgone.none batch hmem (Batch.NamedBy.id_eq hnamed)

/-- **A commit or a discard that names no batch is turned away.** -/
theorem Misnamed.turnedAway (hs : step.before.Numbered) (h : step.Misnamed) : step.TurnedAway := by
  cases h with
  | malformed habout hform =>
    refine SessionStep.turnedAway habout fun batch _ hnamed => ?_
    exact absurd (hform.symm.trans hnamed.1) (by simp)
  | unknown habout hnone =>
    refine SessionStep.turnedAway habout fun batch hmem hnamed => ?_
    exact hnone batch hmem (Batch.NamedBy.id_eq hnamed)
  | @elsewhere quizId batch hmem habout hquiz =>
    refine SessionStep.turnedAway habout fun b hb hnamed => hquiz ?_
    obtain rfl := hs.unique b hb batch hmem (Batch.NamedBy.id_eq hnamed)
    exact hnamed.2

/-- **A batch that is not too old** is not refused as expired. -/
theorem not_refuses_expired (hs : step.before.Numbered) {quizId importId : Field String}
    (habout : step.event.about? = some (quizId, importId)) {batch : Batch}
    (hmem : batch ∈ step.before.batches) (hnamed : batch.NamedBy quizId importId)
    (hage : ¬batch.Outlived step.before.options step.before.clock) (id : String) :
    ¬step.Refuses (.importExpired id) := by
  intro hrefuses
  obtain ⟨r, hrequest, heffect⟩ := hrefuses.asks
  rw [Event.about?_of_request hrequest] at habout
  cases heffect with
  | left _ _ _ hexpired => exact hexpired _ habout id rfl
  | @expired quizId' importId' b _ habout' hb hnamed' hexpired =>
    obtain ⟨rfl, rfl⟩ := Prod.mk.inj (Option.some.inj (habout'.symm.trans habout))
    have hsame : batch.id = b.id := Option.some.inj (hnamed.1.symm.trans hnamed'.1)
    obtain rfl := hs.unique batch hmem b hb hsame
    exact hage (Batch.outlived_of_isExpired hexpired)

/-- **What is refused for another reason** leaves the batches alone. -/
theorem batches_of_refuses {e : Refusal} (h : step.Refuses e) (he : ∀ id, e ≠ .importExpired id) :
    step.after.batches = step.before.batches := by
  obtain ⟨r, -, heffect⟩ := h.asks
  cases heffect with
  | left hbatches => exact hbatches
  | expired => exact absurd rfl (he _)

end SessionStep

/-! ### Sessions -/

/-- **What is used up is given once**: if what a step gives has not been used before it, is used
after it, and stays used, then no two steps of a session give the same. -/
lemma nodup_filterMap_sessionSteps {β : Type} {I : Site → Prop} {U : Site → β → Prop}
    {f : SessionStep → Option β} (hkeeps : ∀ step : SessionStep, I step.before → I step.after)
    (hused : ∀ (step : SessionStep) b, U step.before b → U step.after b)
    (hgives : ∀ (step : SessionStep) b, I step.before → f step = some b →
      ¬U step.before b ∧ U step.after b) {s : Site} (hs : I s) (events : List Event) :
    ((sessionSteps s events).filterMap f).Nodup := by
  induction events generalizing s with
  | nil => exact List.nodup_nil
  | cons e rest ih =>
    have hrest := ih (hkeeps (e.stepFrom s) hs)
    unfold sessionSteps
    rcases hf : f (e.stepFrom s) with _ | b
    · rwa [List.filterMap_cons_none hf]
    · rw [List.filterMap_cons_some hf]
      refine List.nodup_cons.mpr ⟨fun hagain => ?_, hrest⟩
      obtain ⟨step, hstep, hb⟩ := List.mem_filterMap.mp hagain
      obtain ⟨hbefore, hbused⟩ := before_of_mem_sessionSteps (I := fun s => I s ∧ U s b)
        (fun step h => ⟨hkeeps step h.1, hused step b h.2⟩)
        ⟨hkeeps (e.stepFrom s) hs, (hgives _ b hs hf).2⟩ hstep
      exact (hgives step b hbefore hb).1 hbused

/-- **The life of the batches of a session**, from its steps. -/
structure BatchLifecycle (steps : List SessionStep) : Prop where
  /-- No identifier is returned by two previews. -/
  previews : (steps.filterMap SessionStep.previewed?).Nodup
  /-- No identifier is committed twice. -/
  commits : (steps.filterMap SessionStep.committed?).Nodup
  /-- A batch leaves in one of the known ways. -/
  departures : ∀ step ∈ steps, ∀ batch ∈ step.before.batches, batch ∉ step.after.batches →
    Departure step batch
  /-- Later commits and discards of a batch that has left are turned away. -/
  afterwards : ∀ earlier step later, steps = earlier ++ step :: later →
    ∀ batch ∈ step.before.batches, batch ∉ step.after.batches → ∀ step' ∈ later, ∀ quizId,
      step'.event.about? = some (quizId, .given batch.id) → step'.TurnedAway
  /-- So are those that do not name a batch. -/
  misnamed : ∀ step ∈ steps, step.Misnamed → step.TurnedAway
  /-- A batch that is not too old is not refused as expired. -/
  unexpired : ∀ step ∈ steps, ∀ quizId importId, step.event.about? = some (quizId, importId) →
    ∀ batch ∈ step.before.batches, batch.NamedBy quizId importId →
      ¬batch.Outlived step.before.options step.before.clock →
        ∀ id, ¬step.Refuses (.importExpired id)
  /-- A commit that is refused for another reason leaves the batches alone. -/
  kept : ∀ step ∈ steps, ∀ quizId importId origin,
    step.event.request? = some (.commit quizId importId origin) → ∀ e, step.Refuses e →
      (∀ id, e ≠ .importExpired id) → step.after.batches = step.before.batches

/-- **The life of a batch.** In every session from a site without batches, an identifier is returned
by one preview at most and committed once at most. A batch leaves by a commit or a discard that
returns, or by one that finds it older than the site allows; afterwards commits and discards of it
are turned away, as are those that name no batch. A batch that is not too old is never refused as
expired, and a commit that is refused for another reason keeps it.

**Proof sketch.** The identifiers of batches are numbered, and the number only grows. What a request
does to the batches is one of five things, and only three of them take one away: its identifier has
been generated then and has no batch, which no event changes. -/
theorem batchLifecycle {start : Site} (hstart : start.batches = []) (events : List Event) :
    BatchLifecycle (sessionSteps start events) := by
  have hnumbered : start.Numbered := ⟨by simp [hstart], by simp [hstart]⟩
  have hkeeps (step : SessionStep) (h : step.before.Numbered) : step.after.Numbered :=
    step.batchChange.numbered h
  have hbefore {step : SessionStep} (h : step ∈ sessionSteps start events) :
      step.before.Numbered := before_of_mem_sessionSteps hkeeps hnumbered h
  constructor
  case previews =>
    refine nodup_filterMap_sessionSteps (I := fun _ => True)
      (U := fun s id => ∃ n ≤ s.batchCount, id = Batches.generatedId n) (fun _ _ => trivial)
      (fun step id h => step.batchChange.generated h) (fun step id _ h => ?_) trivial events
    obtain ⟨hid, hcount⟩ := step.of_previewed h
    exact ⟨fun hold => Site.next_ne hold hid, _, Nat.le_of_eq hcount.symm, hid⟩
  case commits =>
    refine nodup_filterMap_sessionSteps (I := Site.Numbered)
      (U := fun s importId => ∃ id, importId = .given id ∧ s.Gone id) hkeeps
      (fun step importId h => ?_) (fun step importId hs h => ?_) hnumbered events
    · obtain ⟨id, hid, hgone⟩ := h
      exact ⟨id, hid, step.batchChange.gone hgone⟩
    · obtain ⟨batch, hmem, rfl, hgone⟩ := SessionStep.of_committed hs h
      refine ⟨?_, batch.id, rfl, hgone⟩
      rintro ⟨id, hid, hgone⟩
      exact hgone.none batch hmem (Field.given.inj hid)
  case departures =>
    intro step hstep batch hmem hleft
    exact (SessionStep.departure (hbefore hstep) hmem hleft).1
  case afterwards =>
    intro earlier step later hsteps batch hmem hleft step' hstep' quizId habout
    have hstep : step ∈ sessionSteps start events := by
      rw [hsteps]
      exact List.mem_append_right _ List.mem_cons_self
    have hgone := (SessionStep.departure (hbefore hstep) hmem hleft).2
    obtain ⟨rest, rfl⟩ := exists_of_sessionSteps_eq hsteps
    have hgone' : step'.before.Gone batch.id :=
      before_of_mem_sessionSteps (I := fun s => s.Gone batch.id)
        (fun step h => step.batchChange.gone h) hgone hstep'
    exact SessionStep.turnedAway_of_gone hgone' habout
  case misnamed =>
    intro step hstep hmisnamed
    exact hmisnamed.turnedAway (hbefore hstep)
  case unexpired =>
    intro step hstep quizId importId habout batch hmem hnamed hage
    exact SessionStep.not_refuses_expired (hbefore hstep) habout hmem hnamed hage
  case kept =>
    intro step _ quizId importId origin _ e hrefuses he
    exact SessionStep.batches_of_refuses hrefuses he

/-- The upload of the small file, its commit just before it expires, and the same commit again. -/
def smallSession : List Event :=
  [smallUpload, .change (.advance (some (.finite 3600000))), smallCommit, smallCommit]

/-- The lifecycle in that session: the batch is previewed, committed once, and not again. -/
theorem batchLifecycle_smallSession :
    smallSite.batches = [] ∧ BatchLifecycle (sessionSteps smallSite smallSession) ∧
      (sessionSteps smallSite smallSession).map (fun step => (step.previewed?, step.committed?)) =
        [(some (Batches.generatedId 1), none), (none, none), (none, some firstBatch),
          (none, none)] :=
  ⟨rfl, batchLifecycle rfl smallSession, by decide +kernel⟩

end QuizOverrides
