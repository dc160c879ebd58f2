import QuizOverrides.Proofs.Commit
import QuizOverrides.Proofs.Run
import QuizOverrides.Proofs.TemplateLines

set_option autoImplicit false

/-!
# What requests do

Every request to the import service does its look-ups first and writes at most once after them: a
preview keeps a batch, a commit writes overrides and then removes its batch, a discard removes a
batch, and a template writes nothing.

## Main definitions

* `QuizOverrides.Site.Sheds`, `QuizOverrides.Site.Spares` — what a request may have done to a site.
* `QuizOverrides.Site.withBatch` — a site that keeps a batch.
* `QuizOverrides.Batches.Found` — the batch that a request is about.
* `QuizOverrides.ImportService.Examined`, `QuizOverrides.ImportService.Revalidated` — the runs of a
  preview and of a commit.
* `QuizOverrides.ImportService.CommitFailure` — the places where a commit stops.

## Main results

* `QuizOverrides.ImportService.preview_returns`, `QuizOverrides.ImportService.preview_throws`.
* `QuizOverrides.ImportService.revalidate_returns`, `QuizOverrides.ImportService.commit_returns`,
  `QuizOverrides.ImportService.commit_throws`.
* `QuizOverrides.ImportService.commit_spares` — what a commit does at most.
-/

namespace QuizOverrides

open QuizOverrides.Action

/-! ### Reports and quizzes -/

/-- A report changes no record of the site. -/
lemma Audit.report_frames (e : AuditEntry) : Frames Site.records (Audit.report e) := by
  refine .bind (access_looks _ _).frames.records fun result => ?_
  rcases result with _ | _
  · exact logLine_frames _
  · exact .bind (fun _ => rfl) fun _ => logLine_frames _

namespace ImportService

/-- The quiz of a request is looked up. -/
lemma findQuiz_returns {id : Field String} {s s' : Site} {quiz : Quiz}
    (h : (findQuiz id).Returns s quiz s') : s.quiz? id = some quiz ∧ s'.still = s.still := by
  obtain ⟨found, s₁, hfound, h⟩ := returns_bind.mp h
  have hlook := returns_mapError.mp hfound
  obtain rfl := (find?_looks id).returns hlook
  rcases hquiz : s.quiz? id with _ | q <;> simp [hquiz] at h
  obtain ⟨rfl, rfl⟩ := h
  exact ⟨rfl, (find?_looks id).frames.returns hlook⟩

/-- Finding a quiz changes nothing. -/
lemma findQuiz_frames (id : Field String) : Frames Site.still (findQuiz id).run := by
  refine .run_bind ((find?_looks id).frames.mapError _) fun found => ?_
  rcases found with _ | quiz <;> exact .pure _

/-- Without faults a quiz that is there is found. -/
lemma findQuiz_quiet {id : Field String} {s : Site} {quiz : Quiz} (hs : s.faults = [])
    (hquiz : s.quiz? id = some quiz) :
    ∃ s', (findQuiz id).Returns s quiz s' ∧ s'.faults = [] := by
  obtain ⟨s₁, hfound, hs₁⟩ := (find?_looks id).quiet hs
  refine ⟨s₁, returns_bind.mpr ⟨_, s₁, returns_mapError.mpr hfound, ?_⟩, hs₁⟩
  rw [hquiz]
  exact returns_pure.mpr ⟨rfl, rfl⟩

end ImportService

/-! ### Batches -/

/-- All of the records of a site but its batches. -/
def Site.unbatched (s : Site) : Site := { s.records with batches := [], batchCount := 0 }

/-- All of the records of a site but its overrides and its batches. -/
def Site.settled (s : Site) : Site := { s.aside with batches := [], batchCount := 0 }

/-- **A site that keeps a batch** under the next identifier. -/
def Site.withBatch (s : Site) (batch : Batch) : Site :=
  { s with batches := putRow Batch.id batch s.batches, batchCount := s.batchCount + 1 }

/-- The batch of an upload that is previewed at a site. -/
def Site.newBatch (s : Site) (quizId : String) (mode : Mode) (delimiter : Csv.DelimiterChoice)
    (content : String) (passwords : RowPasswords) : Batch :=
  ⟨Batches.generatedId (s.batchCount + 1), quizId, mode, delimiter, content, passwords,
    s.clock.instant?⟩

/-- **Batches may have been removed** from a site, and nothing else has been done to its records. -/
structure Site.Sheds (s s' : Site) : Prop where
  unbatched : s'.unbatched = s.unbatched
  batchCount : s'.batchCount = s.batchCount
  batches : s'.batches.Sublist s.batches

/-- Where the records are the same, nothing has been shed. -/
lemma Site.Sheds.of_records {s s' : Site} (h : s'.records = s.records) : s.Sheds s' where
  unbatched := Site.congr_of_mask Site.unbatched h fun _ => rfl
  batchCount := Site.congr_of_mask Site.batchCount h fun _ => rfl
  batches := by
    have hbatches : s'.batches = s.batches := Site.congr_of_mask Site.batches h fun _ => rfl
    rw [hbatches]

/-- What is shed in two steps is shed. -/
lemma Site.Sheds.trans {s s₁ s' : Site} (h₁ : s.Sheds s₁) (h : s₁.Sheds s') : s.Sheds s' :=
  ⟨h.unbatched.trans h₁.unbatched, h.batchCount.trans h₁.batchCount, h.batches.trans h₁.batches⟩

/-- **Overrides may have been written** and batches removed; nothing else has been done to the
records of the site. -/
structure Site.Spares (s s' : Site) : Prop where
  settled : s'.settled = s.settled
  batchCount : s'.batchCount = s.batchCount
  batches : s'.batches.Sublist s.batches

/-- Overrides are written, and then batches are removed. -/
lemma Site.Spares.of_aside {s s₁ s₂ s' : Site} (hrecords : s₁.records = s.records)
    (haside : s₂.aside = s₁.aside) (hs' : s₂.Sheds s') : s.Spares s' := by
  have haside' : s₂.aside = s.aside :=
    haside.trans (Site.congr_of_mask Site.aside hrecords fun _ => rfl)
  have hbatches : s₂.batches = s.batches := congrArg (·.batches) haside'
  have hcount : s₂.batchCount = s.batchCount := congrArg (·.batchCount) haside'
  refine ⟨?_, hs'.batchCount.trans hcount, hbatches ▸ hs'.batches⟩
  calc s'.settled
      = s₂.settled := Site.congr_of_mask Site.settled hs'.unbatched fun _ => rfl
    _ = s.settled := Site.congr_of_mask Site.settled haside' fun _ => rfl

/-- **A computation removes batches at most.** -/
def Sheds {α : Type} (x : StateM Site α) : Prop := ∀ s : Site, s.Sheds (runOn x s).2

namespace Sheds

variable {ε ε' α β : Type}

/-- What leaves the records alone sheds nothing. -/
lemma of_frames {x : StateM Site α} (h : Frames Site.records x) : Sheds x := fun s =>
  .of_records (h s)

/-- A sequence only sheds batches if its parts do. -/
lemma run_bind {act : Action ε α} {f : α → Action ε β} (hact : Sheds act.run)
    (hf : ∀ a, Sheds (f a).run) : Sheds (ExceptT.run (act >>= f)) := by
  intro s
  rw [runOn_run_bind]
  have h := hact s
  rcases hrun : runOn act.run s with ⟨e | a, s'⟩ <;> rw [hrun] at h
  · exact h
  · exact h.trans (hf a s')

/-- Renaming errors sheds no batch. -/
lemma mapError {act : Action ε α} (f : ε → ε') (h : Sheds act.run) :
    Sheds (act.mapError f).run := by
  intro s
  rw [runOn_run_mapError]
  exact h s

/-- At most batches have been shed where the action returns. -/
lemma returns {act : Action ε α} (h : Sheds act.run) {s s' : Site} {a : α}
    (hrun : act.Returns s a s') : s.Sheds s' := by
  have := h s
  rwa [hrun] at this

/-- At most batches have been shed where the action throws. -/
lemma throws {act : Action ε α} (h : Sheds act.run) {s s' : Site} {e : ε}
    (hrun : act.Throws s e s') : s.Sheds s' := by
  have := h s
  rwa [hrun] at this

end Sheds

namespace Batches

/-- An upload is kept by an access and then a write. -/
lemma runOn_save (quizId : String) (mode : Mode) (delimiter : Csv.DelimiterChoice)
    (content : String) (passwords : RowPasswords) (s : Site) :
    runOn (save quizId mode delimiter content passwords).run s =
      match runOn (access .batches .save).run s with
      | (.error e, s₁) => (.error e, s₁)
      | (.ok _, s₁) =>
        (.ok (generatedId (s₁.batchCount + 1)),
          s₁.withBatch (s₁.newBatch quizId mode delimiter content passwords)) := by
  unfold save
  rw [runOn_run_bind]
  rcases runOn (access .batches .save).run s with ⟨_ | _, s₁⟩ <;> rfl

/-- A batch is removed by an access and then a write. -/
lemma runOn_remove (id : String) (s : Site) :
    runOn (remove id).run s =
      match runOn (access .batches .delete).run s with
      | (.error e, s₁) => (.error e, s₁)
      | (.ok _, s₁) =>
        (.ok ⟨⟩, { s₁ with batches := s₁.batches.filter fun b => b.id ≠ id }) := by
  unfold remove
  rw [runOn_run_bind]
  rcases runOn (access .batches .delete).run s with ⟨_ | _, s₁⟩ <;> rfl

/-- Removing a batch sheds it. -/
lemma remove_sheds (id : String) : Sheds (remove id).run := by
  intro s
  rw [runOn_remove, runOn_access]
  rcases (strike .batches .delete s.faults).1 with _ | e
  · exact ⟨rfl, rfl, List.filter_sublist⟩
  · exact .of_records rfl

/-- **A batch that is not removed** stays because a fault strikes, and nothing else is done. -/
lemma remove_throws {id : String} {s s' : Site} {e : StorageError}
    (h : (remove id).Throws s e s') :
    (strike .batches .delete s.faults).1 = some e ∧ s'.still = s.still := by
  unfold Throws at h
  rw [runOn_remove, runOn_access] at h
  rcases hstrike : (strike .batches .delete s.faults).1 with _ | e' <;> simp [hstrike] at h
  obtain ⟨rfl, rfl⟩ := h
  exact ⟨rfl, rfl⟩

/-- Without faults a batch is removed. -/
lemma remove_quiet (id : String) {s : Site} (hs : s.faults = []) :
    ∃ s', (remove id).Returns s ⟨⟩ s' ∧ s'.faults = [] := by
  refine ⟨{ s.accessed .batches .delete with
    batches := s.batches.filter fun b => b.id ≠ id }, ?_, ?_⟩
  · unfold Returns
    rw [runOn_remove, runOn_access, hs]
    rfl
  · unfold Site.accessed
    rw [hs]
    rfl

/-- **The batch that a request finds** is there, is that of the quiz and has not expired. -/
structure Found (s : Site) (quizId importId : Field String) (batch : Batch) : Prop where
  found : ∃ id, issuedId? importId = some id ∧
    (s.batches.find? fun b => b.id == id && quizId.holds (some b.quizId)) = some batch
  fresh : isExpired s.options s.clock batch = false

/-- What has been found is told by the part of the site that stands still. -/
lemma Found.congr {s s' : Site} {quizId importId : Field String} {batch : Batch}
    (h : Found s' quizId importId batch) (hs : s'.still = s.still) :
    Found s quizId importId batch := by
  have hbatches : s'.batches = s.batches := congrArg (·.batches) hs
  have hexpired : isExpired s'.options s'.clock = isExpired s.options s.clock :=
    Site.congr_of_mask (fun s => isExpired s.options s.clock) hs fun _ => rfl
  obtain ⟨hfound, hfresh⟩ := h
  rw [hbatches] at hfound
  rw [hexpired] at hfresh
  exact ⟨hfound, hfresh⟩

/-- A search that returns has found the batch, and changed nothing. -/
lemma find_returns {quizId importId : Field String} {s s' : Site} {batch : Batch}
    (h : (find quizId importId).Returns s batch s') :
    Found s quizId importId batch ∧ s'.still = s.still := by
  unfold find at h
  rcases hid : issuedId? importId with _ | id <;> simp only [hid] at h
  · exact absurd h returns_throw
  · obtain ⟨_, s₁, haccess, h⟩ := returns_bind.mp h
    have hstill : s₁.still = s.still :=
      (access_looks _ _).frames.returns (returns_mapError.mp haccess)
    obtain ⟨_, _, hget, h⟩ := returns_bind.mp h
    obtain ⟨rfl, rfl⟩ := returns_get.mp hget
    split at h
    · exact absurd h returns_throw
    · rename_i b hb
      split_ifs at h with hold
      · obtain ⟨_, _, -, h⟩ := returns_bind.mp h
        exact absurd h returns_throw
      · obtain ⟨rfl, rfl⟩ := returns_pure.mp h
        exact ⟨Found.congr ⟨⟨id, hid, hb⟩, by simpa using hold⟩ hstill, hstill⟩

/-- A search only sheds batches. -/
lemma find_sheds (quizId importId : Field String) : Sheds (find quizId importId).run := by
  unfold find
  rcases issuedId? importId with _ | id
  · exact .of_frames (.pure _)
  · refine .run_bind (.of_frames ((access_looks _ _).frames.records.mapError _)) fun _ => ?_
    refine .run_bind (.of_frames fun _ => rfl) fun site => ?_
    split
    · exact .of_frames (.pure _)
    · split_ifs
      · exact .run_bind ((remove_sheds _).mapError _) fun _ => .of_frames (.pure _)
      · exact .of_frames (.pure _)

/-- A search leaves alone what its access and the removal of an expired batch do. -/
lemma find_frames_of {γ : Type} {π : Site → γ} (haccess : Frames π (access .batches .findOne).run)
    (hremove : ∀ id, Frames π (remove id).run) (quizId importId : Field String) :
    Frames π (find quizId importId).run := by
  unfold find
  rcases issuedId? importId with _ | id
  · exact .pure _
  · refine .run_bind (haccess.mapError _) fun _ => ?_
    refine .run_bind (fun _ => rfl) fun site => ?_
    split
    · exact .pure _
    · split_ifs
      · exact .run_bind ((hremove _).mapError _) fun _ => .pure _
      · exact .pure _

/-- Without faults a batch that is there is found. -/
lemma find_quiet {quizId importId : Field String} {s : Site} {batch : Batch} (hs : s.faults = [])
    (h : Found s quizId importId batch) :
    ∃ s', (find quizId importId).Returns s batch s' ∧ s'.faults = [] := by
  obtain ⟨s₁, haccess, hs₁⟩ := (access_looks .batches .findOne).quiet hs
  have hstill : s.still = s₁.still := ((access_looks _ _).frames.returns haccess).symm
  obtain ⟨⟨id, hid, hfound⟩, hfresh⟩ := h.congr hstill
  refine ⟨s₁, ?_, hs₁⟩
  unfold find
  simp only [hid]
  refine returns_bind.mpr ⟨_, s₁, returns_mapError.mpr haccess, ?_⟩
  refine returns_bind.mpr ⟨s₁, s₁, returns_get.mpr ⟨rfl, rfl⟩, ?_⟩
  simp [hfound, hfresh]

end Batches

namespace ImportService

/-! ### Previews -/

/-- Decoding a file changes nothing. -/
lemma decode_frames {γ : Type} {π : Site → γ} (form : ImportForm) (bytes : ByteArray) :
    Frames π (decode form bytes).run := by
  refine .run_bind (usable_frames _) fun label => .run_bind (fun _ => rfl) fun site => ?_
  split <;> exact .pure _

/-- **The run over an upload**: the quiz was there, the upload had a text, a table and an accepted
header, and the run over the table lists a row. -/
structure Examined (s : Site) (quizId : Field String) (form : ImportForm) (q : Quiz)
    (content : String) (run : ImportRun) : Prop where
  quiz : s.quiz? quizId = some q
  passes : ∃ table, Csv.Table.ofChoice content form.delimiter = .ok table ∧
    s.Passes table form.mode q [] run
  rows : run.rows ≠ []

/-- How a file is examined is told by the records of the site. -/
lemma Examined.congr {s s' : Site} {quizId : Field String} {form : ImportForm} {q : Quiz}
    {content : String} {run : ImportRun} (h : Examined s' quizId form q content run)
    (hs : s'.records = s.records) : Examined s quizId form q content run where
  quiz := (Site.congr_of_mask (fun s => s.quiz? quizId) hs fun _ => rfl).symm.trans h.quiz
  passes := by
    obtain ⟨table, htable, hpasses⟩ := h.passes
    exact ⟨table, htable, hpasses.congr hs⟩
  rows := h.rows

/-- An examination leaves alone what looking up the quiz and runs do. -/
lemma examine_frames_of {γ : Type} {π : Site → γ} (hquiz : ∀ id, Frames π (findQuiz id).run)
    (hrun : ∀ table mode quiz pinned, Frames π (runTable table mode quiz pinned).run)
    (quizId : Field String) (bytes : ByteArray) (form : ImportForm) :
    Frames π (examine quizId bytes form).run := by
  refine .run_bind (hquiz _) fun quiz => ?_
  refine .run_bind (decode_frames _ _) fun content => ?_
  refine .run_bind (usable_frames _) fun table => ?_
  split_ifs
  · exact fun _ => rfl
  · exact fun _ => rfl
  · exact fun _ => rfl
  · refine .run_bind (hrun _ _ _ _) fun run => ?_
    split_ifs <;> exact fun _ => rfl

/-- Examining a file changes no record of the site. -/
lemma examine_frames (quizId : Field String) (bytes : ByteArray) (form : ImportForm) :
    Frames Site.records (examine quizId bytes form).run :=
  examine_frames_of (fun id => (findQuiz_frames id).records) runTable_frames quizId bytes form

/-- The text of an upload is that of its bytes in the encoding of the form. -/
lemma decode_returns {form : ImportForm} {bytes : ByteArray} {s s' : Site} {text : String}
    (h : (decode form bytes).Returns s text s') :
    ∃ label, encodingLabel form = .ok label ∧
      decodeUpload s.runtime.decoders label bytes = .ok text := by
  obtain ⟨label, s₁, hlabel, h⟩ := returns_bind.mp h
  obtain ⟨hgiven, rfl⟩ := returns_usable.mp hlabel
  obtain ⟨site, s₂, hget, h⟩ := returns_bind.mp h
  obtain ⟨rfl, rfl⟩ := returns_get.mp hget
  refine ⟨label, hgiven, ?_⟩
  split at h
  · rename_i text' hdecoded
    obtain ⟨rfl, -⟩ := returns_pure.mp h
    exact hdecoded
  · exact absurd h returns_throw

/-- An upload that has been examined has been decoded first. -/
lemma examine_returns_decoded {quizId : Field String} {bytes : ByteArray} {form : ImportForm}
    {s s' : Site} {quiz : Quiz} {content : String} {run : ImportRun}
    (h : (examine quizId bytes form).Returns s (quiz, content, run) s') :
    (∃ label, encodingLabel form = .ok label ∧
      decodeUpload s.runtime.decoders label bytes = .ok content) ∧
      Examined s quizId form quiz content run := by
  obtain ⟨q, s₁, hquiz, h⟩ := returns_bind.mp h
  obtain ⟨hfound, hs₁⟩ := findQuiz_returns hquiz
  obtain ⟨text, s₂, hdecode, h⟩ := returns_bind.mp h
  obtain ⟨label, hlabel, hdecoded⟩ := decode_returns hdecode
  -- the search for the quiz leaves the decoders alone
  have hdecoders : s₁.runtime.decoders = s.runtime.decoders :=
    Site.congr_of_mask (fun s => s.runtime.decoders) hs₁ fun _ => rfl
  obtain ⟨table, s₃, husable, h⟩ := returns_bind.mp h
  obtain ⟨htable, rfl⟩ := returns_usable.mp husable
  have hrecords : s₂.records = s.records :=
    ((decode_frames form bytes).returns hdecode).trans
      (Site.congr_of_mask Site.records hs₁ fun _ => rfl)
  split_ifs at h
  · obtain ⟨_, _, h, -⟩ := returns_bind.mp h
    exact absurd h returns_throw
  · obtain ⟨_, _, h, -⟩ := returns_bind.mp h
    exact absurd h returns_throw
  · obtain ⟨_, _, h, -⟩ := returns_bind.mp h
    exact absurd h returns_throw
  · obtain ⟨run', s₄, hrun, h⟩ := returns_bind.mp h
    split_ifs at h with hempty
    · obtain ⟨_, _, h, -⟩ := returns_bind.mp h
      exact absurd h returns_throw
    · obtain ⟨h, -⟩ := returns_pure.mp h
      simp only [Prod.mk.injEq] at h
      obtain ⟨rfl, rfl, rfl⟩ := h
      exact ⟨⟨label, hlabel, hdecoders ▸ hdecoded⟩,
        hfound, ⟨table, htable, (runTable_returns hrun).congr hrecords⟩, by simpa using hempty⟩

/-- What is returned has been examined. -/
lemma examine_returns {quizId : Field String} {bytes : ByteArray} {form : ImportForm} {s s' : Site}
    {quiz : Quiz} {content : String} {run : ImportRun}
    (h : (examine quizId bytes form).Returns s (quiz, content, run) s') :
    Examined s quizId form quiz content run :=
  (examine_returns_decoded h).2

/-- **A preview that returns** has examined its upload. -/
lemma preview_returns_examine {quizId : Field String} {bytes : ByteArray} {form : ImportForm}
    {origin : RequestOrigin} {s s' : Site} {p : Preview}
    (h : (preview quizId bytes form origin).Returns s p s') :
    ∃ quiz content run s₁, (examine quizId bytes form).Returns s (quiz, content, run) s₁ ∧
      p = ⟨Batches.generatedId (s.batchCount + 1), form.mode, run.canImport, .ofRows run.rows,
        run.rows⟩ ∧
      s'.records = (s.withBatch
        (s.newBatch quiz.id form.mode form.delimiter content run.generatedPasswords)).records := by
  obtain ⟨⟨quiz, content, run⟩, s₁, hexamine, h⟩ := returns_bind.mp h
  have hs₁ : s₁.records = s.records := (examine_frames _ _ _).returns hexamine
  obtain ⟨id, s₂, hsave, h⟩ := returns_bind.mp h
  obtain ⟨_, s₃, hreport, h⟩ := returns_bind.mp h
  obtain ⟨rfl, rfl⟩ := returns_pure.mp h
  have hs₃ : s₃.records = s₂.records := (Audit.report_frames _).lift.returns hreport
  have hsave := returns_mapError.mp hsave
  unfold Returns at hsave
  rw [Batches.runOn_save, runOn_access] at hsave
  rcases hstrike : (strike .batches .save s₁.faults).1 with _ | e <;> simp [hstrike] at hsave
  obtain ⟨rfl, rfl⟩ := hsave
  refine ⟨quiz, content, run, s₁, hexamine, ?_, ?_⟩
  · have hcount : s₁.batchCount = s.batchCount :=
      Site.congr_of_mask Site.batchCount hs₁ fun _ => rfl
    simp [Site.accessed, hcount]
  · have haccessed : (s₁.accessed .batches .save).records = s.records := hs₁
    rw [hs₃]
    exact Site.congr_of_mask (fun s => (s.withBatch (s.newBatch quiz.id form.mode form.delimiter
      content run.generatedPasswords)).records) haccessed fun _ => rfl

/-- **A preview that returns** shows the run over the upload and has kept it as a batch. -/
theorem preview_returns {quizId : Field String} {bytes : ByteArray} {form : ImportForm}
    {origin : RequestOrigin} {s s' : Site} {p : Preview}
    (h : (preview quizId bytes form origin).Returns s p s') :
    ∃ quiz content run, Examined s quizId form quiz content run ∧
      p = ⟨Batches.generatedId (s.batchCount + 1), form.mode, run.canImport, .ofRows run.rows,
        run.rows⟩ ∧
      s'.records = (s.withBatch
        (s.newBatch quiz.id form.mode form.delimiter content run.generatedPasswords)).records := by
  obtain ⟨quiz, content, run, _, hexamine, hp, hs'⟩ := preview_returns_examine h
  exact ⟨quiz, content, run, examine_returns hexamine, hp, hs'⟩

/-- **A preview that throws** changes no record. -/
theorem preview_throws {quizId : Field String} {bytes : ByteArray} {form : ImportForm}
    {origin : RequestOrigin} {s s' : Site} {e : Refusal}
    (h : (preview quizId bytes form origin).Throws s e s') : s'.records = s.records := by
  rcases throws_bind.mp h with hexamine | ⟨⟨quiz, content, run⟩, s₁, hexamine, h⟩
  · exact (examine_frames _ _ _).throws hexamine
  · have hs₁ : s₁.records = s.records := (examine_frames _ _ _).returns hexamine
    rcases throws_bind.mp h with hsave | ⟨_, _, -, h⟩
    · obtain ⟨_, hsave, -⟩ := throws_mapError.mp hsave
      unfold Throws at hsave
      rw [Batches.runOn_save, runOn_access] at hsave
      rcases hstrike : (strike .batches .save s₁.faults).1 with _ | e <;> simp [hstrike] at hsave
      obtain ⟨-, rfl⟩ := hsave
      exact hs₁
    · rcases throws_bind.mp h with h | ⟨_, _, -, h⟩
      · exact absurd h throws_lift
      · exact absurd h throws_pure

/-! ### Commits -/

/-- **The run of a commit**: the quiz and the batch were there, and the run over the text of the
batch has passed, with the passwords that the preview showed. -/
structure Revalidated (s : Site) (quizId importId : Field String) (quiz : Quiz) (batch : Batch)
    (run : ImportRun) : Prop where
  quiz_found : s.quiz? quizId = some quiz
  batch_found : Batches.Found s (.given quiz.id) importId batch
  passes : ∃ table, Csv.Table.ofChoice batch.content batch.delimiter = .ok table ∧
    s.Passes table batch.mode quiz batch.passwords run

/-- A revalidation removes an expired batch at most. -/
lemma revalidate_sheds (quizId importId : Field String) :
    Sheds (revalidate quizId importId).run := by
  refine .run_bind (.of_frames (findQuiz_frames _).records) fun quiz => ?_
  refine .run_bind (Batches.find_sheds _ _) fun batch => ?_
  refine .run_bind (.of_frames (usable_frames _)) fun table => ?_
  exact .run_bind (.of_frames (runTable_frames _ _ _ _)) fun run => .of_frames (.pure _)

/-- **A revalidation that returns** changes no record. -/
theorem revalidate_returns {quizId importId : Field String} {s s' : Site} {quiz : Quiz}
    {batch : Batch} {run : ImportRun}
    (h : (revalidate quizId importId).Returns s (quiz, batch, run) s') :
    Revalidated s quizId importId quiz batch run ∧ s'.records = s.records := by
  obtain ⟨q, s₁, hquiz, h⟩ := returns_bind.mp h
  obtain ⟨hquiz, hs₁⟩ := findQuiz_returns hquiz
  obtain ⟨b, s₂, hbatch, h⟩ := returns_bind.mp h
  obtain ⟨hbatch, hs₂⟩ := Batches.find_returns hbatch
  obtain ⟨table, s₃, husable, h⟩ := returns_bind.mp h
  obtain ⟨htable, rfl⟩ := returns_usable.mp husable
  obtain ⟨run', s₄, hrun, h⟩ := returns_bind.mp h
  obtain ⟨heq, rfl⟩ := returns_pure.mp h
  simp only [Prod.mk.injEq] at heq
  obtain ⟨rfl, rfl, rfl⟩ := heq
  have hrecords : s₂.records = s.records :=
    Site.congr_of_mask Site.records (hs₂.trans hs₁) fun _ => rfl
  refine ⟨⟨hquiz, ?_, ⟨table, htable, (runTable_returns hrun).congr hrecords⟩⟩,
    ((runTable_frames _ _ _ _).returns hrun).trans hrecords⟩
  exact hbatch.congr hs₁

/-- A revalidation has one outcome. -/
lemma revalidate_unique {quizId importId : Field String} {s s₁ s₂ : Site} {quiz quiz' : Quiz}
    {batch batch' : Batch} {run run' : ImportRun}
    (h : (revalidate quizId importId).Returns s (quiz, batch, run) s₁)
    (h' : (revalidate quizId importId).Returns s (quiz', batch', run') s₂) :
    quiz' = quiz ∧ batch' = batch ∧ run' = run ∧ s₂ = s₁ := by
  obtain ⟨heq, hsite⟩ := h'.unique h
  simp only [Prod.mk.injEq] at heq
  exact ⟨heq.1, heq.2.1, heq.2.2, hsite⟩

/-- Without faults an upload is revalidated, if its table and its header are accepted. -/
lemma revalidate_quiet {quizId importId : Field String} {s : Site} {quiz : Quiz} {batch : Batch}
    {table : Csv.Table} (hs : s.faults = []) (hquiz : s.quiz? quizId = some quiz)
    (hbatch : Batches.Found s (.given quiz.id) importId batch)
    (htable : Csv.Table.ofChoice batch.content batch.delimiter = .ok table)
    (haccepted : batch.mode.Accepts table.columns) :
    ∃ run s', (revalidate quizId importId).Returns s (quiz, batch, run) s' ∧ s'.faults = [] := by
  obtain ⟨s₁, hfind, hs₁⟩ := findQuiz_quiet hs hquiz
  have hstill : s.still = s₁.still := (findQuiz_returns hfind).2.symm
  obtain ⟨s₂, hfound, hs₂⟩ := Batches.find_quiet hs₁ (hbatch.congr hstill)
  obtain ⟨run, s₃, hrun, hs₃⟩ := runTable_quiet quiz batch.passwords haccepted hs₂
  refine ⟨run, s₃, returns_bind.mpr ⟨quiz, s₁, hfind, returns_bind.mpr ⟨batch, s₂, hfound, ?_⟩⟩,
    hs₃⟩
  exact returns_bind.mpr ⟨table, s₂, returns_usable.mpr ⟨htable, rfl⟩,
    returns_bind.mpr ⟨run, s₃, hrun, returns_pure.mpr ⟨rfl, rfl⟩⟩⟩

/-- The change that each row of a run makes. -/
def changesOf (run : ImportRun) : List RowChange := run.rows.map ImportRow.change

/-- A run that can be imported passes the two tests with which its import begins. -/
lemma not_refused_of_canImport {run : ImportRun} (hcan : run.canImport = true) :
    ¬(!run.processed) = true ∧
      ¬(!({ run with commitError := none, summary := none } : ImportRun).canImport) = true := by
  obtain ⟨hprocessed, -⟩ := Bool.and_eq_true_iff.mp hcan
  constructor
  · simp [hprocessed]
  · rw [show ({ run with commitError := none, summary := none } : ImportRun).canImport = true
      from hcan]
    decide

/-- A run that can be imported is imported by the commit of its changes; that they failed is told to
the log. -/
lemma runOn_commit {run : ImportRun} (hcan : run.canImport = true) (s : Site) :
    ∃ ok run' s', runOn run.commit s = ((ok, run'), s') ∧
      match runOn (commitChanges (changesOf run)).run s with
      | (.ok total, s₂) =>
        ok = true ∧ run'.commitError = none ∧ run'.summary = some total ∧ s' = s₂
      | (.error e, s₂) =>
        ok = false ∧ run'.commitError = some e.asError ∧ run'.summary = none ∧
          ∃ line, s' = { s₂ with logs := s₂.logs ++ [line] } := by
  obtain ⟨hprocessed, hready⟩ := not_refused_of_canImport hcan
  unfold ImportRun.commit
  dsimp only
  rw [if_neg hprocessed, if_neg hready, runOn_bind]
  unfold changesOf
  rcases runOn (commitChanges (run.rows.map ImportRow.change)).run s with ⟨e | total, s₂⟩
  · exact ⟨_, _, _, rfl, rfl, rfl, rfl, _, rfl⟩
  · exact ⟨_, _, _, rfl, rfl, rfl, rfl, rfl⟩

/-- A run that is imported leaves alone what the commit of its changes and log lines do. -/
lemma commit_frames_of {γ : Type} {π : Site → γ} (hlog : ∀ line, Frames π (logLine line))
    {run : ImportRun} (hchanges : Frames π (commitChanges (changesOf run)).run) :
    Frames π run.commit := by
  unfold ImportRun.commit
  dsimp only
  split_ifs
  · exact .bind (hlog _) fun _ => .pure _
  · exact .bind (hlog _) fun _ => .pure _
  · refine .bind hchanges fun result => ?_
    rcases result with e | total
    · exact .bind (hlog _) fun _ => .pure _
    · exact .pure _

/-- The report about an import. -/
def importedReport (quiz : Quiz) (batch : Batch) (total : CommitSummary) (origin : RequestOrigin) :
    AuditEntry where
  action := some (.text "OVERRIDES_IMPORTED")
  component := some (.text component)
  level := some (.text "info")
  entityId := some (.text quiz.id)
  entityType := some (.text "Quiz")
  newValues := some total.payload
  metadata := some (.record [("importId", .text batch.id), ("mode", batch.mode.payload)])
  ipAddress := origin.ipAddress
  userAgent := origin.userAgent

/-- The report about an import that has failed. -/
def notImportedReport (quiz : Quiz) (batch : Batch) (e : CommitError) : AuditEntry where
  action := some (.text "OVERRIDE_IMPORT_FAILED")
  component := some (.text component)
  level := some (.text "error")
  errorMessage := some (.text e.message)
  trace := .given .callStack
  metadata := some (.record [("quizId", .text quiz.id), ("importId", .text batch.id),
    ("description", .text "System error occurred")])

/-- The report about an import that has failed is an audit entry. -/
lemma reportFailure_eq (quiz : Quiz) (batch : Batch) (e : CommitError) :
    Audit.reportFailure e.message (.given .callStack) (some (.text component))
        (some (.text "OVERRIDE_IMPORT_FAILED"))
        [("quizId", .text quiz.id), ("importId", .text batch.id)] =
      Audit.report (notImportedReport quiz batch e) := rfl

/-- **The commit of a run that can be imported**: its changes are committed, the batch is removed
and the import is reported. If the changes fail, it is the failure that is reported. -/
lemma runOn_commit_of_revalidate {quizId importId : Field String} (origin : RequestOrigin)
    {s s₁ : Site} {quiz : Quiz} {batch : Batch} {run : ImportRun}
    (hrevalidate : (revalidate quizId importId).Returns s (quiz, batch, run) s₁)
    (hcan : run.canImport = true) :
    match runOn (commitChanges (changesOf run)).run s₁ with
    | (.error e, s₂) => ∃ line, (commit quizId importId origin).Throws s (.notImported e.asError)
        (runOn (Audit.report (notImportedReport quiz batch e.asError))
          { s₂ with logs := s₂.logs ++ [line] }).2
    | (.ok total, s₂) =>
      match runOn (Batches.remove batch.id).run s₂ with
      | (.error e, s₃) => (commit quizId importId origin).Throws s (.storage e) s₃
      | (.ok _, s₃) => (commit quizId importId origin).Returns s total
          (runOn (Audit.report (importedReport quiz batch total origin)) s₃).2 := by
  obtain ⟨ok, run', s', hrun, hresult⟩ := runOn_commit hcan s₁
  have hcommit : (liftM run.commit : Action Refusal (Bool × ImportRun)).Returns s₁ (ok, run') s' :=
    returns_lift.mpr hrun
  have hcan' : ¬(!run.canImport) = true := by simp [hcan]
  rcases hchanges : runOn (commitChanges (changesOf run)).run s₁ with ⟨e | total, s₂⟩ <;>
    simp only [hchanges] at hresult ⊢
  · -- the failure is reported before it is thrown
    obtain ⟨-, herror, hsummary, line, rfl⟩ := hresult
    refine ⟨line, throws_bind.mpr (.inr ⟨_, s₁, hrevalidate, ?_⟩)⟩
    dsimp only
    rw [if_neg hcan']
    refine throws_bind.mpr (.inr ⟨_, _, hcommit, ?_⟩)
    simp only [hsummary, herror, Option.getD_some, reportFailure_eq]
    exact throws_bind.mpr (.inr ⟨_, _, returns_lift.mpr rfl, throws_throw.mpr ⟨rfl, rfl⟩⟩)
  · obtain ⟨-, -, hsummary, rfl⟩ := hresult
    rcases hremove : runOn (Batches.remove batch.id).run s' with ⟨e | u, s₃⟩ <;> dsimp only
    · refine throws_bind.mpr (.inr ⟨_, s₁, hrevalidate, ?_⟩)
      dsimp only
      rw [if_neg hcan']
      refine throws_bind.mpr (.inr ⟨_, _, hcommit, ?_⟩)
      simp only [hsummary]
      exact throws_bind.mpr (.inl (throws_mapError.mpr ⟨e, hremove, rfl⟩))
    · refine returns_bind.mpr ⟨_, s₁, hrevalidate, ?_⟩
      dsimp only
      rw [if_neg hcan']
      refine returns_bind.mpr ⟨_, _, hcommit, ?_⟩
      simp only [hsummary]
      refine returns_bind.mpr ⟨u, s₃, returns_mapError.mpr hremove, ?_⟩
      exact returns_bind.mpr ⟨_, _, returns_lift.mpr rfl, returns_pure.mpr ⟨rfl, rfl⟩⟩

/-- **Where a commit goes**: its upload is not revalidated, or a row has errors, or its changes are
committed. -/
lemma commit_cases (quizId importId : Field String) (origin : RequestOrigin) (s : Site) :
    (∃ e s', (revalidate quizId importId).Throws s e s' ∧
      (commit quizId importId origin).Throws s e s') ∨
    ∃ quiz batch run s₁, (revalidate quizId importId).Returns s (quiz, batch, run) s₁ ∧
      (run.canImport = true ∨ run.canImport = false ∧
        (commit quizId importId origin).Throws s (.invalidRows batch.mode (invalidRows run))
          s₁) := by
  rcases returns_or_throws (revalidate quizId importId) s with
    ⟨⟨quiz, batch, run⟩, s₁, h⟩ | ⟨e, s', h⟩
  · refine .inr ⟨quiz, batch, run, s₁, h, ?_⟩
    by_cases hcan : run.canImport = true
    · exact .inl hcan
    · refine .inr ⟨by simpa using hcan, throws_bind.mpr (.inr ⟨_, s₁, h, ?_⟩)⟩
      dsimp only
      rw [if_pos (by simpa using hcan)]
      exact throws_bind.mpr (.inl (throws_throw.mpr ⟨rfl, rfl⟩))
  · exact .inl ⟨e, s', h, throws_bind.mpr (.inl h)⟩

/-- **A commit that returns** has revalidated its upload and committed the changes of the run. Then
it has removed the batch. -/
theorem commit_returns {quizId importId : Field String} {origin : RequestOrigin} {s s' : Site}
    {total : CommitSummary} (h : (commit quizId importId origin).Returns s total s') :
    ∃ quiz batch run s₁ s₂ s₃,
      (revalidate quizId importId).Returns s (quiz, batch, run) s₁ ∧ run.canImport = true ∧
      (commitChanges (changesOf run)).Returns s₁ total s₂ ∧
      (Batches.remove batch.id).Returns s₂ ⟨⟩ s₃ ∧ s'.records = s₃.records := by
  obtain ⟨_, _, -, hthrows⟩ | ⟨quiz, batch, run, s₁, hrevalidate, hcan | ⟨-, hthrows⟩⟩ :=
    commit_cases quizId importId origin s
  · exact absurd hthrows h.not_throws
  · have hrun := runOn_commit_of_revalidate origin hrevalidate hcan
    rcases hchanges : runOn (commitChanges (changesOf run)).run s₁ with ⟨e | total', s₂⟩ <;>
      simp only [hchanges] at hrun
    · obtain ⟨_, hthrows⟩ := hrun
      exact absurd hthrows h.not_throws
    · rcases hremove : runOn (Batches.remove batch.id).run s₂ with ⟨e | u, s₃⟩ <;>
        simp only [hremove] at hrun
      · exact absurd hrun h.not_throws
      · obtain ⟨rfl, rfl⟩ := h.unique hrun
        exact ⟨quiz, batch, run, s₁, s₂, s₃, hrevalidate, hcan, hchanges, hremove,
          Audit.report_frames _ s₃⟩
  · exact absurd hthrows h.not_throws

/-- **Where a commit that throws has been stopped.** -/
inductive CommitFailure (quizId importId : Field String) (s : Site) : Refusal → Site → Prop where
  /-- The upload was not revalidated. -/
  | revalidation {e : Refusal} {s' : Site}
      (hrevalidate : (revalidate quizId importId).Throws s e s') :
      CommitFailure quizId importId s e s'
  /-- Rows have errors. -/
  | errors {quiz : Quiz} {batch : Batch} {run : ImportRun} {s' : Site}
      (hrevalidate : (revalidate quizId importId).Returns s (quiz, batch, run) s')
      (hcan : run.canImport = false) :
      CommitFailure quizId importId s (.invalidRows batch.mode (invalidRows run)) s'
  /-- The changes were not committed. -/
  | changes {quiz : Quiz} {batch : Batch} {run : ImportRun} {e : CommitError} {s₁ s₂ s' : Site}
      (hrevalidate : (revalidate quizId importId).Returns s (quiz, batch, run) s₁)
      (hcan : run.canImport = true) (hcommit : (commitChanges (changesOf run)).Throws s₁ e s₂)
      (hs' : s'.records = s₂.records) :
      CommitFailure quizId importId s (.notImported e.asError) s'
  /-- The changes were committed, and the batch was not removed. -/
  | removal {quiz : Quiz} {batch : Batch} {run : ImportRun} {total : CommitSummary}
      {e : StorageError} {s₁ s₂ s' : Site}
      (hrevalidate : (revalidate quizId importId).Returns s (quiz, batch, run) s₁)
      (hcan : run.canImport = true) (hcommit : (commitChanges (changesOf run)).Returns s₁ total s₂)
      (hremove : (Batches.remove batch.id).Throws s₂ e s') :
      CommitFailure quizId importId s (.storage e) s'

/-- **A commit that throws** has been stopped in one of these places. -/
theorem commit_throws {quizId importId : Field String} {origin : RequestOrigin} {s s' : Site}
    {e : Refusal} (h : (commit quizId importId origin).Throws s e s') :
    CommitFailure quizId importId s e s' := by
  obtain ⟨_, _, hrevalidate, hthrows⟩ |
      ⟨quiz, batch, run, s₁, hrevalidate, hcan | ⟨hcan, hthrows⟩⟩ :=
    commit_cases quizId importId origin s
  · obtain ⟨rfl, rfl⟩ := h.unique hthrows
    exact .revalidation hrevalidate
  · have hrun := runOn_commit_of_revalidate origin hrevalidate hcan
    rcases hchanges : runOn (commitChanges (changesOf run)).run s₁ with ⟨e' | total, s₂⟩ <;>
      simp only [hchanges] at hrun
    · obtain ⟨_, hthrows⟩ := hrun
      obtain ⟨rfl, rfl⟩ := h.unique hthrows
      exact .changes hrevalidate hcan hchanges (Audit.report_frames _ _)
    · rcases hremove : runOn (Batches.remove batch.id).run s₂ with ⟨e' | u, s₃⟩ <;>
        simp only [hremove] at hrun
      · obtain ⟨rfl, rfl⟩ := h.unique hrun
        exact .removal hrevalidate hcan hchanges hremove
      · exact absurd h hrun.not_throws
  · obtain ⟨rfl, rfl⟩ := h.unique hthrows
    exact .errors hrevalidate hcan

/-- **A commit is refused** where a row of its run has errors. -/
lemma commit_refused {quizId importId : Field String} (origin : RequestOrigin) {s s₁ : Site}
    {quiz : Quiz} {batch : Batch} {run : ImportRun}
    (hrevalidate : (revalidate quizId importId).Returns s (quiz, batch, run) s₁)
    (hcan : run.canImport = false) :
    (commit quizId importId origin).Throws s (.invalidRows batch.mode (invalidRows run)) s₁ := by
  refine throws_bind.mpr (.inr ⟨_, s₁, hrevalidate, ?_⟩)
  dsimp only
  rw [if_pos (by rw [hcan]; rfl)]
  exact throws_bind.mpr (.inl (throws_throw.mpr ⟨rfl, rfl⟩))

/-- **Without faults a commit returns** if the changes of its run can be committed. -/
lemma commit_quiet {quizId importId : Field String} (origin : RequestOrigin) {s s₁ : Site}
    {quiz : Quiz} {batch : Batch} {run : ImportRun}
    (hrevalidate : (revalidate quizId importId).Returns s (quiz, batch, run) s₁)
    (hcan : run.canImport = true)
    (hcommit : ∃ total s₂, (commitChanges (changesOf run)).Returns s₁ total s₂ ∧ s₂.faults = []) :
    ∃ total s', (commit quizId importId origin).Returns s total s' := by
  rcases returns_or_throws (commit quizId importId origin) s with hreturns | ⟨e, s', hthrows⟩
  · exact hreturns
  obtain ⟨total, s₂, hcommit, hs₂⟩ := hcommit
  cases commit_throws hthrows with
  | revalidation h => exact absurd h hrevalidate.not_throws
  | errors h hcan' =>
    obtain ⟨-, -, rfl, -⟩ := revalidate_unique hrevalidate h
    rw [hcan] at hcan'
    exact absurd hcan' (by decide)
  | changes h _ hthrow _ =>
    obtain ⟨-, -, rfl, rfl⟩ := revalidate_unique hrevalidate h
    exact absurd hthrow hcommit.not_throws
  | removal h _ hreturn hremove =>
    obtain ⟨-, rfl, rfl, rfl⟩ := revalidate_unique hrevalidate h
    obtain ⟨-, rfl⟩ := hcommit.unique hreturn
    obtain ⟨_, hremoved, -⟩ := Batches.remove_quiet _ hs₂
    exact absurd hremove hremoved.not_throws

/-- **What a commit leaves alone**, whatever it comes to. -/
theorem commit_spares (quizId importId : Field String) (origin : RequestOrigin) (s : Site) :
    s.Spares (runOn (commit quizId importId origin).run s).2 := by
  rcases returns_or_throws (commit quizId importId origin) s with ⟨total, s', h⟩ | ⟨e, s', h⟩
  · obtain ⟨quiz, batch, run, s₁, s₂, s₃, hrevalidate, -, hcommit, hremove, hs'⟩ :=
      commit_returns h
    rw [show runOn (commit quizId importId origin).run s = _ from h]
    exact .of_aside (revalidate_returns hrevalidate).2 ((commitChanges_frames _).returns hcommit)
      (((Batches.remove_sheds _).returns hremove).trans (.of_records hs'))
  · rw [show runOn (commit quizId importId origin).run s = _ from h]
    cases commit_throws h with
    | revalidation hrevalidate =>
      exact .of_aside rfl rfl ((revalidate_sheds _ _).throws hrevalidate)
    | errors hrevalidate =>
      exact .of_aside rfl rfl ((revalidate_sheds _ _).returns hrevalidate)
    | changes hrevalidate _ hcommit hs' =>
      exact .of_aside (revalidate_returns hrevalidate).2 ((commitChanges_frames _).throws hcommit)
        (.of_records hs')
    | removal hrevalidate _ hcommit hremove =>
      exact .of_aside (revalidate_returns hrevalidate).2 ((commitChanges_frames _).returns hcommit)
        ((Batches.remove_sheds _).throws hremove)

/-! ### Discards and templates -/

/-- Discarding only sheds batches. -/
lemma discard_sheds (quizId importId : Field String) : Sheds (discard quizId importId).run := by
  refine .run_bind (Batches.find_sheds _ _) fun batch => ?_
  refine .run_bind ((Batches.remove_sheds _).mapError _) fun _ => ?_
  exact .of_frames (logLine_frames _).lift

/-- A template changes no record of the site. -/
lemma template_frames (quizId : Field String) (mode : Mode) :
    Frames Site.records (template quizId mode).run := by
  refine .run_bind (findQuiz_frames _).records fun quiz => ?_
  refine .run_bind (.mapError _ (Template.rows_looks _ _).frames.records) fun rows => ?_
  exact .run_bind (usable_frames _) fun _ => .pure _

end ImportService

end QuizOverrides
