import QuizOverrides.Http.Error
import QuizOverrides.Proofs.Requests
import QuizOverrides.Proofs.Scans

set_option autoImplicit false

/-!
# How commits and discards are refused

A commit and a discard begin with the search for their batch. Unless storage fails, the search is
stopped by one of three refusals, all of which are told as not found: there is no such quiz, there
is no such batch of the quiz, or the batch has expired. Only the last one changes anything, for it
removes the batch.

## Main definitions

* `QuizOverrides.Action.ThrowsOnly` — what an action may throw.
* `QuizOverrides.Batch.NamedBy` — a batch is the one that a request is about.
* `QuizOverrides.Refusal.IsNotFound` — a refusal is told as not found.
* `QuizOverrides.SearchFailure` — how the search for a batch is stopped.

## Main results

* `QuizOverrides.Batches.find_throws` — the search of a discard.
* `QuizOverrides.ImportService.revalidate_throws` — the search of a commit, and what comes after.
* `QuizOverrides.ImportService.commit_of_not_named`,
  `QuizOverrides.ImportService.discard_of_not_named` — without a batch commits and discards are
  refused and change nothing.
-/

namespace QuizOverrides

open QuizOverrides.Action

/-! ### What an action may throw -/

/-- **An action throws nothing but certain errors.** -/
def Action.ThrowsOnly {ε α : Type} (act : Action ε α) (P : ε → Prop) : Prop :=
  ∀ (s s' : Site) (e : ε), act.Throws s e s' → P e

namespace Action.ThrowsOnly

variable {ε ε' α β : Type} {P : ε → Prop}

/-- Returning a value throws nothing. -/
lemma pure (a : α) : ThrowsOnly (Pure.pure a : Action ε α) P := fun _ _ _ h =>
  absurd h throws_pure

/-- Throwing an error throws only that one. -/
lemma throw {e : ε} (he : P e) : ThrowsOnly (throw e : Action ε α) P := by
  intro s s' e' h
  obtain ⟨rfl, -⟩ := throws_throw.mp h
  exact he

/-- What cannot fail throws nothing. -/
lemma lift (x : StateM Site α) : ThrowsOnly (liftM x : Action ε α) P := fun _ _ _ h =>
  absurd h throws_lift

/-- A sequence throws what its parts do. -/
lemma bind {act : Action ε α} {f : α → Action ε β} (hact : act.ThrowsOnly P)
    (hf : ∀ a, (f a).ThrowsOnly P) : (act >>= f).ThrowsOnly P := by
  intro s s'' e h
  rcases throws_bind.mp h with h | ⟨a, s', -, h⟩
  · exact hact s s'' e h
  · exact hf a s' s'' e h

end Action.ThrowsOnly

namespace ImportService

/-- The run over a table is stopped by storage, by what it is given, or by a header. -/
lemma runTable_throwsOnly {P : Refusal → Prop} (hstorage : ∀ e, P (.storage e))
    (hunusable : ∀ fault, P (.unusable fault)) (hheader : ∀ e, P (.badHeader e))
    (table : Csv.Table) (mode : Mode) (quiz : Quiz) (pinned : RowPasswords) :
    (runTable table mode quiz pinned).ThrowsOnly P := by
  unfold runTable
  refine .bind (.lift _) fun processed => .bind ?_ fun outcome => ?_
  · rcases processed.1 with fault | result
    · exact .throw (hunusable fault)
    · exact .pure result
  · rcases outcome with e | _ | _
    · exact .throw (hstorage e)
    · exact .throw (hheader _)
    · exact .pure _

end ImportService

/-! ### The search for a batch -/

/-- **The batch is the one that a request is about**: the request gives its identifier and its
quiz. -/
def Batch.NamedBy (batch : Batch) (quizId importId : Field String) : Prop :=
  issuedId? importId = some batch.id ∧ quizId = .given batch.quizId

/-- **The client is told that something was not found.** -/
def Refusal.IsNotFound (e : Refusal) : Prop := e.thrown = .http (.ofMessage .notFound e.message)

/-- A field holds a text if that text is given. -/
lemma Field.holds_some_iff {quizId : Field String} {x : String} :
    quizId.holds (some x) = true ↔ quizId = .given x := by
  rcases quizId with _ | _ | q | p <;> simp [holds]

/-- An identifier that may have been issued has been given. -/
lemma given_of_issuedId? {x : Field String} {id : String} (h : issuedId? x = some id) :
    x = .given id := by
  have hgiven := (Option.filter_eq_some_iff.mp h).1
  rcases x with _ | _ | y | p <;> simp [Field.toOption] at hgiven
  rw [hgiven]

/-- The batch that a request is about has the identifier that it gives. -/
lemma Batch.NamedBy.id_eq {batch : Batch} {quizId : Field String} {id : String}
    (h : batch.NamedBy quizId (.given id)) : batch.id = id :=
  (Field.given.inj (given_of_issuedId? h.1)).symm

/-- **How the search for the batch of a request is stopped.** -/
inductive SearchFailure (quizId importId : Field String) (s : Site) : Refusal → Site → Prop where
  /-- There is no such quiz. -/
  | noQuiz {s' : Site} (hnone : s.quiz? quizId = none) (hs' : s'.still = s.still) :
      SearchFailure quizId importId s (.quizNotFound quizId) s'
  /-- There is no such batch of the quiz. -/
  | noBatch {s' : Site} (hnone : ∀ batch ∈ s.batches, ¬batch.NamedBy quizId importId)
      (hs' : s'.still = s.still) : SearchFailure quizId importId s (.importNotFound importId) s'
  /-- A fault has struck. -/
  | struck {e : StorageError} {s' : Site} (hstruck : ¬s.Unstruck s') (hs' : s'.still = s.still) :
      SearchFailure quizId importId s (.storage e) s'
  /-- The batch has expired, and has been removed. -/
  | expired {batch : Batch} {s' : Site} (hmem : batch ∈ s.batches)
      (hnamed : batch.NamedBy quizId importId)
      (hexpired : Batches.isExpired s.options s.clock batch = true)
      (hbatches : s'.batches = s.batches.filter fun b => b.id ≠ batch.id) :
      SearchFailure quizId importId s (.importExpired batch.id) s'

namespace SearchFailure

variable {quizId importId : Field String} {s s₁ s' : Site} {e : Refusal}

/-- A search that fails after a look-up has failed from the start on. -/
lemma of_still (h : SearchFailure quizId importId s₁ e s') (hs₁ : s₁.still = s.still)
    (hwears : s.Wears s₁) (hwears' : s₁.Wears s') : SearchFailure quizId importId s e s' := by
  have hbatches : s₁.batches = s.batches := congrArg (·.batches) hs₁
  cases h with
  | noQuiz hnone hs' =>
    refine .noQuiz ?_ (hs'.trans hs₁)
    rw [← hnone]
    exact (Site.congr_of_mask (fun s => s.quiz? quizId) hs₁ fun _ => rfl).symm
  | noBatch hnone hs' => exact .noBatch (hbatches ▸ hnone) (hs'.trans hs₁)
  | struck hstruck hs' =>
    exact .struck (fun h => hstruck (h.parts hwears hwears').2) (hs'.trans hs₁)
  | expired hmem hnamed hexpired hremoved =>
    rw [hbatches] at hmem hremoved
    refine .expired hmem hnamed ?_ hremoved
    rw [← hexpired]
    exact (Site.congr_of_mask (fun s => Batches.isExpired s.options s.clock _) hs₁
      fun _ => rfl).symm

/-- Unless a fault has struck, the client is told that something was not found. -/
lemma isNotFound (h : SearchFailure quizId importId s e s') (hunstruck : s.Unstruck s') :
    e.IsNotFound := by
  cases h with
  | noQuiz | noBatch | expired => rfl
  | struck hstruck => exact absurd hunstruck hstruck

/-- Where there is no batch, the search changes nothing. -/
lemma still (h : SearchFailure quizId importId s e s')
    (hnone : ∀ batch ∈ s.batches, ¬batch.NamedBy quizId importId) : s'.still = s.still := by
  cases h with
  | noQuiz _ hs' | noBatch _ hs' | struck _ hs' => exact hs'
  | expired hmem hnamed => exact absurd hnamed (hnone _ hmem)

end SearchFailure

namespace Batches

/-- Removing a batch adds no fault. -/
lemma remove_wears (id : String) : Wears (remove id).run := by
  intro s
  rw [runOn_remove, runOn_access]
  have hworn : Worn s.faults (strike .batches .delete s.faults).2 := by
    rw [← strikes_singleton (.batches, .delete)]
    exact worn_strikes _ _
  rcases (strike .batches .delete s.faults).1 with _ | e <;> exact hworn

/-- A batch that is not removed stays because a fault strikes. -/
lemma remove_throws_struck {id : String} {s s' : Site} {e : StorageError}
    (h : (remove id).Throws s e s') : ¬s.Unstruck s' ∧ s'.still = s.still := by
  obtain ⟨hstrike, hs'⟩ := remove_throws h
  refine ⟨fun hunstruck => ?_, hs'⟩
  have hthrows : (access .batches .delete).Throws s e s' := by
    unfold Throws at h ⊢
    rw [runOn_remove, runOn_access] at h
    rw [runOn_access]
    simpa [hstrike] using h
  exact (Accesses.access .batches .delete).not_unstruck hthrows hunstruck

/-- A removed batch is gone, and no other one is. -/
lemma remove_returns {id : String} {s s' : Site} {u : Unit} (h : (remove id).Returns s u s') :
    s'.batches = s.batches.filter fun b => b.id ≠ id := by
  unfold Returns at h
  rw [runOn_remove, runOn_access] at h
  rcases hstrike : (strike .batches .delete s.faults).1 with _ | e <;>
    simp only [hstrike, Prod.mk.injEq, reduceCtorEq, false_and] at h
  rw [← h.2]
  rfl

/-- Finding a batch adds no fault. -/
lemma find_wears (quizId importId : Field String) : Wears (find quizId importId).run := by
  unfold find
  rcases issuedId? importId with _ | id
  · exact .of_frames (.pure _)
  · refine .run_bind (.mapError _ (Accesses.access _ _).wears) fun _ => ?_
    refine .run_bind (.of_frames fun _ => rfl) fun site => ?_
    split
    · exact .of_frames (.pure _)
    · split_ifs
      · exact .run_bind ((remove_wears _).mapError _) fun _ => .of_frames (.pure _)
      · exact .of_frames (.pure _)

/-- **The batch that is found is the one that the request is about.** -/
lemma Found.namedBy {s : Site} {quizId importId : Field String} {batch : Batch}
    (h : Found s quizId importId batch) : batch ∈ s.batches ∧ batch.NamedBy quizId importId := by
  obtain ⟨id, hid, hfind⟩ := h.found
  have hmatch := List.find?_some hfind
  obtain ⟨hsame, hholds⟩ := Bool.and_eq_true_iff.mp hmatch
  exact ⟨List.mem_of_find?_eq_some hfind, hid.trans (congrArg some (beq_iff_eq.mp hsame).symm),
    Field.holds_some_iff.mp hholds⟩

/-- **The search for a batch** is stopped in one of the known ways. -/
theorem find_throws {quizId importId : Field String} {s s' : Site} {e : Refusal}
    (h : (find quizId importId).Throws s e s') : SearchFailure quizId importId s e s' := by
  have hwears := (find_wears quizId importId).throws h
  unfold find at h
  -- an identifier that cannot have been issued is not even looked for
  rcases hid : issuedId? importId with _ | id <;> simp only [hid] at h
  · obtain ⟨rfl, rfl⟩ := throws_throw.mp h
    exact .noBatch (fun batch _ hnamed => by simp [Batch.NamedBy, hid] at hnamed) rfl
  · rcases throws_bind.mp h with h | ⟨_, s₁, haccess, h⟩
    · obtain ⟨e', haccess, rfl⟩ := throws_mapError.mp h
      exact .struck ((Accesses.access _ _).not_unstruck haccess)
        ((access_looks _ _).frames.throws haccess)
    · have haccess := returns_mapError.mp haccess
      have hstill : s₁.still = s.still := (access_looks _ _).frames.returns haccess
      have hbatches : s₁.batches = s.batches := congrArg (·.batches) hstill
      have hwears₁ : s.Wears s₁ := (Accesses.access _ _).wears.returns haccess
      rcases throws_bind.mp h with h | ⟨_, _, hget, h⟩
      · exact absurd h (by simp [Throws])
      obtain ⟨rfl, rfl⟩ := returns_get.mp hget
      split at h
      · rename_i hnone
        obtain ⟨rfl, rfl⟩ := throws_throw.mp h
        refine .noBatch (fun batch hmem hnamed => ?_) hstill
        obtain ⟨hissued, hquiz⟩ := hnamed
        obtain rfl : id = batch.id := Option.some.inj (hid.symm.trans hissued)
        have hno := List.find?_eq_none.mp hnone batch (hbatches ▸ hmem)
        exact hno (by simp [hquiz, Field.holds])
      · rename_i batch hfind
        split_ifs at h with hexpired
        · have hmem : batch ∈ s₁.batches := List.mem_of_find?_eq_some hfind
          have hmatch := List.find?_some hfind
          obtain ⟨hsame, hholds⟩ := Bool.and_eq_true_iff.mp hmatch
          obtain rfl : batch.id = id := beq_iff_eq.mp hsame
          rcases throws_bind.mp h with h | ⟨_, s₂, hremove, h⟩
          · obtain ⟨e', hremove, rfl⟩ := throws_mapError.mp h
            obtain ⟨hstruck, hs'⟩ := remove_throws_struck hremove
            exact SearchFailure.of_still (.struck hstruck hs') hstill hwears₁
              ((remove_wears _).throws hremove)
          · have hremove := returns_mapError.mp hremove
            obtain ⟨rfl, rfl⟩ := throws_throw.mp h
            have hnamed : batch.NamedBy quizId importId := ⟨hid, Field.holds_some_iff.mp hholds⟩
            exact SearchFailure.of_still (.expired hmem hnamed hexpired (remove_returns hremove))
              hstill hwears₁ ((remove_wears _).returns hremove)
        · exact absurd h throws_pure

end Batches

/-! ### Commits and discards -/

namespace ImportService

variable {quizId importId : Field String} {origin : RequestOrigin} {s s' : Site}

/-- The accesses that the search for a quiz makes. -/
lemma find?_accesses (id : Field String) :
    (Quizzes.find? id).Accesses
      fun _ => if (issuedId? id).isSome then [(.quizzes, .findOne)] else [] := by
  unfold Quizzes.find?
  cases issuedId? id with
  | none => exact Accesses.pure none
  | some i => exact Accesses.access_read _ _ _

/-- Finding a quiz adds no fault. -/
lemma findQuiz_wears (id : Field String) : Wears (findQuiz id).run := by
  refine .run_bind ((find?_accesses id).wears.mapError _) fun found => ?_
  rcases found with _ | quiz <;> exact .of_frames (.pure _)

/-- A quiz that is found is the one that the request gives. -/
lemma given_of_quiz? {quiz : Quiz} (h : s.quiz? quizId = some quiz) : quizId = .given quiz.id := by
  obtain ⟨i, hi, hfind⟩ := Option.bind_eq_some_iff.mp h
  have hmatch := List.find?_some hfind
  obtain rfl : quiz.id = i := beq_iff_eq.mp hmatch
  exact given_of_issuedId? hi

/-- The search for the quiz of a commit is stopped in one of the known ways. -/
lemma findQuiz_throws {e : Refusal} (h : (findQuiz quizId).Throws s e s') :
    SearchFailure quizId importId s e s' := by
  rcases throws_bind.mp h with h | ⟨found, s₁, hfound, h⟩
  · obtain ⟨e', hfind, rfl⟩ := throws_mapError.mp h
    exact .struck ((find?_accesses quizId).not_unstruck hfind)
      ((find?_looks quizId).frames.throws hfind)
  · have hlook := returns_mapError.mp hfound
    obtain rfl := (find?_looks quizId).returns hlook
    rcases hquiz : s.quiz? quizId with _ | quiz <;> simp [hquiz] at h
    obtain ⟨rfl, rfl⟩ := h
    exact .noQuiz hquiz ((find?_looks quizId).frames.returns hlook)

/-- **A revalidation** is stopped by the search for its batch, or after it. Then no record has been
changed. -/
theorem revalidate_throws {e : Refusal} (h : (revalidate quizId importId).Throws s e s') :
    SearchFailure quizId importId s e s' ∨
      (∃ quiz batch, s.quiz? quizId = some quiz ∧
        Batches.Found s (.given quiz.id) importId batch) ∧
      (∀ id, e ≠ .importExpired id) ∧ (∀ reason, e ≠ .notImported reason) ∧
      s'.records = s.records := by
  rcases throws_bind.mp h with h | ⟨quiz, s₁, hquiz, h⟩
  · exact .inl (findQuiz_throws h)
  have hwears₁ := (findQuiz_wears quizId).returns hquiz
  obtain ⟨hfound, hs₁⟩ := findQuiz_returns hquiz
  rcases throws_bind.mp h with h | ⟨batch, s₂, hbatch, h⟩
  · rw [← given_of_quiz? hfound] at h
    exact .inl ((Batches.find_throws h).of_still hs₁ hwears₁ ((Batches.find_wears _ _).throws h))
  obtain ⟨hbatch, hs₂⟩ := Batches.find_returns hbatch
  have hrecords : s₂.records = s.records :=
    Site.congr_of_mask Site.records (hs₂.trans hs₁) fun _ => rfl
  -- once the batch has been found, neither its age nor a commit is a reason to stop
  have hlater : (do
      let table ← usable (Csv.Table.ofChoice batch.content batch.delimiter)
      let run ← runTable table batch.mode quiz batch.passwords
      pure (quiz, batch, run) : Action Refusal (Quiz × Batch × ImportRun)).ThrowsOnly
      fun e => (∀ id, e ≠ .importExpired id) ∧ ∀ reason, e ≠ .notImported reason := by
    refine .bind ?_ fun table => .bind ?_ fun run => .pure _
    · rcases Csv.Table.ofChoice batch.content batch.delimiter with fault | table
      · exact .throw ⟨by simp, by simp⟩
      · exact .pure table
    · exact runTable_throwsOnly (by simp) (by simp) (by simp) _ _ _ _
  have hframes : Frames Site.records (ExceptT.run (do
      let table ← usable (Csv.Table.ofChoice batch.content batch.delimiter)
      let run ← runTable table batch.mode quiz batch.passwords
      pure (quiz, batch, run) : Action Refusal (Quiz × Batch × ImportRun))) :=
    .run_bind (usable_frames _) fun table =>
      .run_bind (runTable_frames _ _ _ _) fun run => .pure _
  obtain ⟨hexpired, himported⟩ := hlater s₂ s' e h
  exact .inr ⟨⟨quiz, batch, hfound, hbatch.congr hs₁⟩, hexpired, himported,
    (hframes.throws h).trans hrecords⟩

/-- Checking a batch again adds no fault. -/
lemma revalidate_wears (quizId importId : Field String) :
    Wears (revalidate quizId importId).run := by
  refine .run_bind (findQuiz_wears _) fun quiz => ?_
  refine .run_bind (Batches.find_wears _ _) fun batch => ?_
  refine .run_bind (usable_wears _) fun table => ?_
  exact .run_bind (runTable_wears _ _ _ _) fun run => .of_frames (.pure _)

/-- What is revalidated is what the request is about. -/
lemma revalidate_namedBy {quiz : Quiz} {batch : Batch} {run : ImportRun}
    (h : (revalidate quizId importId).Returns s (quiz, batch, run) s') :
    batch ∈ s.batches ∧ batch.NamedBy quizId importId ∧
      Batches.isExpired s.options s.clock batch = false := by
  obtain ⟨hrevalidated, -⟩ := revalidate_returns h
  obtain ⟨hmem, hissued, hquiz⟩ := hrevalidated.batch_found.namedBy
  exact ⟨hmem, ⟨hissued, (given_of_quiz? hrevalidated.quiz_found).trans hquiz⟩,
    hrevalidated.batch_found.fresh⟩

/-- **A commit without a batch** is refused, and changes nothing. Unless a fault has struck, it is
told that something was not found. -/
theorem commit_of_not_named (origin : RequestOrigin)
    (hnone : ∀ batch ∈ s.batches, ¬batch.NamedBy quizId importId) :
    ∃ e s', (commit quizId importId origin).Throws s e s' ∧ s'.still = s.still ∧
      (s.Unstruck s' → e.IsNotFound) := by
  rcases returns_or_throws (commit quizId importId origin) s with ⟨total, s', h⟩ | ⟨e, s', h⟩
  · obtain ⟨quiz, batch, run, s₁, -, -, hrevalidate, -⟩ := commit_returns h
    obtain ⟨hmem, hnamed, -⟩ := revalidate_namedBy hrevalidate
    exact absurd hnamed (hnone batch hmem)
  · refine ⟨e, s', h, ?_⟩
    cases commit_throws h with
    | revalidation hrevalidate =>
      rcases revalidate_throws hrevalidate with hfailure | ⟨⟨quiz, batch, hquiz, hfound⟩, -⟩
      · exact ⟨hfailure.still hnone, hfailure.isNotFound⟩
      · obtain ⟨hmem, hissued, hsame⟩ := hfound.namedBy
        exact absurd ⟨hissued, (given_of_quiz? hquiz).trans hsame⟩ (hnone batch hmem)
    | errors hrevalidate _ | changes hrevalidate _ _ _ | removal hrevalidate _ _ _ =>
      obtain ⟨hmem, hnamed, -⟩ := revalidate_namedBy hrevalidate
      exact absurd hnamed (hnone _ hmem)

/-- **A discard that returns** has found its batch and removed it. -/
theorem discard_returns {u : Unit} (h : (discard quizId importId).Returns s u s') :
    ∃ batch s₁ s₂, Batches.Found s quizId importId batch ∧ s₁.still = s.still ∧
      (Batches.remove batch.id).Returns s₁ ⟨⟩ s₂ ∧ s'.records = s₂.records := by
  obtain ⟨batch, s₁, hfind, h⟩ := returns_bind.mp h
  obtain ⟨_, s₂, hremove, h⟩ := returns_bind.mp h
  obtain ⟨hfound, hs₁⟩ := Batches.find_returns hfind
  exact ⟨batch, s₁, s₂, hfound, hs₁, returns_mapError.mp hremove,
    (logLine_frames _).lift.returns h⟩

/-- **A discard that throws** has not found its batch, or a fault has struck when it was to be
removed. -/
theorem discard_throws {e : Refusal} (h : (discard quizId importId).Throws s e s') :
    SearchFailure quizId importId s e s' ∨
      (∃ batch, Batches.Found s quizId importId batch) ∧ (∃ err, e = .storage err) ∧
        ¬s.Unstruck s' ∧ s'.still = s.still := by
  rcases throws_bind.mp h with h | ⟨batch, s₁, hfind, h⟩
  · exact .inl (Batches.find_throws h)
  obtain ⟨hfound, hs₁⟩ := Batches.find_returns hfind
  rcases throws_bind.mp h with h | ⟨_, s₂, -, h⟩
  · obtain ⟨err, hremove, rfl⟩ := throws_mapError.mp h
    obtain ⟨hstruck, hs'⟩ := Batches.remove_throws_struck hremove
    refine .inr ⟨⟨batch, hfound⟩, ⟨err, rfl⟩, fun hunstruck => hstruck ?_, hs'.trans hs₁⟩
    exact (hunstruck.parts ((Batches.find_wears _ _).returns hfind)
      ((Batches.remove_wears _).throws hremove)).2
  · exact absurd h throws_lift

/-- **A discard without a batch** is refused in the same way. -/
theorem discard_of_not_named (hnone : ∀ batch ∈ s.batches, ¬batch.NamedBy quizId importId) :
    ∃ e s', (discard quizId importId).Throws s e s' ∧ s'.still = s.still ∧
      (s.Unstruck s' → e.IsNotFound) := by
  rcases returns_or_throws (discard quizId importId) s with ⟨u, s', h⟩ | ⟨e, s', h⟩
  · obtain ⟨batch, -, -, hfound, -⟩ := discard_returns h
    obtain ⟨hmem, hnamed⟩ := hfound.namedBy
    exact absurd hnamed (hnone batch hmem)
  · refine ⟨e, s', h, ?_⟩
    rcases discard_throws h with hfailure | ⟨⟨batch, hfound⟩, -⟩
    · exact ⟨hfailure.still hnone, hfailure.isNotFound⟩
    · obtain ⟨hmem, hnamed⟩ := hfound.namedBy
      exact absurd hnamed (hnone batch hmem)

end ImportService

end QuizOverrides
