import QuizOverrides.Proofs.Rows
import QuizOverrides.Session

set_option autoImplicit false

/-!
# What happens in sessions

An event of a session is a change that others make, a preview that keeps a batch, a commit, or a
request that removes a batch at most. What each of these keeps is kept by all sessions.

## Main definitions

* `QuizOverrides.Event.Typed` — the form of a request names a kind of subject.
* `QuizOverrides.Event.Step` — what an event does to a site.
* `QuizOverrides.Site.Reachable` — the sites that sessions lead to.

## Main results

* `QuizOverrides.Event.step` — every event does one of these things.
* `QuizOverrides.runSession_keeps` — what every event keeps is kept by sessions.
-/

namespace QuizOverrides

open QuizOverrides.Action

/-- The form of the request names a kind of subject, if it is a preview. -/
def Request.Typed : Request → Prop
  | .preview _ _ form _ => ∃ kind, form.mode = .kind kind
  | _ => True

/-- **The event is typed**: a request that is made directly is. Over HTTP no other form is
accepted. -/
def Event.Typed : Event → Prop
  | .request r => r.Typed
  | _ => True

/-- **What an event does to a site.** -/
inductive Event.Step (e : Event) (s : Site) : Site → Prop where
  /-- Others change the site. -/
  | change {c : SiteChange} {s' : Site} (he : e = .change c) (hs' : s' = c.apply s) : e.Step s s'
  /-- Batches are removed at most. -/
  | shed {s' : Site} (h : s.Sheds s') : e.Step s s'
  /-- A preview keeps its upload. -/
  | keep {quizId : Field String} {form : ImportForm} {quiz : Quiz} {content : String}
      {run : ImportRun} {s' : Site} (hmode : e.Typed → ∃ kind, form.mode = .kind kind)
      (h : ImportService.Examined s quizId form quiz content run)
      (hs' : s'.records = (s.withBatch
        (s.newBatch quiz.id form.mode form.delimiter content run.generatedPasswords)).records) :
      e.Step s s'
  /-- A commit is made. -/
  | commit {quizId importId : Field String} {origin : RequestOrigin} {s' : Site}
      (hs' : s'.records = (runOn (ImportService.commit quizId importId origin).run s).2.records) :
      e.Step s s'

/-- Whether an upload is accepted changes no record of the site. -/
lemma acceptUpload_frames (file : Option Upload) : Frames Site.records (acceptUpload file).run := by
  unfold acceptUpload
  rcases file with _ | upload
  · exact .pure _
  · dsimp only
    split_ifs
    · exact .pure _
    · exact .run_bind (logLine_frames _).lift fun _ => .pure _

/-- Answering an error changes no record of the site. -/
lemma answerError_frames (thrown : Thrown) (method url : Option Payload) :
    Frames Site.records (answerError thrown method url) := by
  intro s
  unfold answerError
  simp only [runOn_bind, runOn_get]
  split <;> rfl

/-- What an event does, up to the logs. -/
lemma Event.Step.of_records {e : Event} {s s₁ s' : Site} (he : ∀ c, e ≠ .change c)
    (h : e.Step s s₁) (hs' : s'.records = s₁.records) : e.Step s s' := by
  cases h with
  | change hc _ => exact absurd hc (he _)
  | shed h => exact .shed (h.trans (.of_records hs'))
  | keep hmode h hs₁ => exact .keep hmode h (hs'.trans hs₁)
  | commit hs₁ => exact .commit (hs'.trans hs₁)

/-- What a preview does, once its upload has been accepted. -/
lemma ImportService.preview_step {e : Event} {form : ImportForm}
    (hmode : e.Typed → ∃ kind, form.mode = .kind kind) (quizId : Field String) (bytes : ByteArray)
    (origin : RequestOrigin) {s s₁ : Site} (hs₁ : s₁.records = s.records) :
    e.Step s (runOn (preview quizId bytes form origin).run s₁).2 := by
  rcases returns_or_throws (preview quizId bytes form origin) s₁ with ⟨p, s', h⟩ | ⟨e', s', h⟩ <;>
    rw [show runOn (preview quizId bytes form origin).run s₁ = _ from h]
  · obtain ⟨quiz, content, run, hexamined, -, hs'⟩ := preview_returns h
    refine .keep hmode (hexamined.congr hs₁) (hs'.trans ?_)
    exact Site.congr_of_mask (fun s => (s.withBatch (s.newBatch quiz.id form.mode form.delimiter
      content run.generatedPasswords)).records) hs₁ fun _ => rfl
  · exact .shed (.of_records ((preview_throws h).trans hs₁))

/-- What the answer to a request does. -/
lemma Request.step {e : Event} (r : Request) (hr : e.Typed → r.Typed) (s : Site) :
    e.Step s (runOn r.answer.run s).2 := by
  cases r with
  | preview quizId file form origin =>
    unfold answer
    rw [runOn_run_bind]
    have hs₁ := acceptUpload_frames file s
    rcases hupload : runOn (acceptUpload file).run s with ⟨e' | bytes, s₁⟩ <;> rw [hupload] at hs₁
    · exact .shed (.of_records hs₁)
    · dsimp only
      rw [runOn_run_map]
      exact ImportService.preview_step hr quizId bytes origin hs₁
  | commit quizId importId origin =>
    unfold answer
    rw [runOn_run_map]
    exact .commit rfl
  | discard quizId importId =>
    unfold answer
    rw [runOn_run_map]
    exact .shed (ImportService.discard_sheds quizId importId s)
  | template quizId mode =>
    unfold answer
    rw [runOn_run_map]
    exact .shed (.of_records (ImportService.template_frames quizId mode s))

/-- Over HTTP a request that is read is typed. -/
lemma HttpRequest.typed_of_read {h : HttpRequest} {r : Request} (hread : h.read = .ok r) :
    r.Typed := by
  cases h with
  | preview quizId file form origin =>
    unfold read at hread
    rcases hid : readIdentifier quizId with e | id <;> simp [hid, bind, Except.bind] at hread
    rcases hform : UploadForm.ofPayload form with e | f <;> simp [hform] at hread
    obtain rfl := hread
    exact ⟨f.kind, rfl⟩
  | commit quizId importId | discard quizId importId =>
    unfold read at hread
    rcases hid : readIdentifier quizId with e | id <;> simp [hid, bind, Except.bind] at hread
    rcases hid' : readIdentifier importId with e | id' <;> simp [hid'] at hread
    obtain rfl := hread
    trivial
  | template quizId form =>
    unfold read at hread
    rcases hid : readIdentifier quizId with e | id <;> simp [hid, bind, Except.bind] at hread
    rcases hform : TemplateForm.ofPayload form with e | f <;> simp [hform] at hread
    obtain rfl := hread
    trivial

/-- **What an event does.** -/
theorem Event.step (e : Event) (s : Site) : e.Step s (runOn e.run s).2 := by
  cases e with
  | change c => exact .change rfl rfl
  | request r =>
    unfold run
    rw [runOn_bind]
    have hstep : (Event.request r).Step s (runOn r.answer.run s).2 := r.step id s
    rcases hrun : runOn r.answer.run s with ⟨refusal | a, s'⟩ <;> rw [hrun] at hstep <;> exact hstep
  | httpRequest h =>
    have hrun : (runOn (Event.httpRequest h).run s).2 = (runOn h.answer s).2 := by
      unfold run
      rw [runOn_bind]
      rcases runOn h.answer s with ⟨_ | _, s'⟩ <;> rfl
    rw [hrun]
    -- a refusal is told to the log, which is no record
    have htold (refusal : Refusal) (s₁ : Site) :
        (runOn (do
            pure (.error (← answerError refusal.thrown (some (.text h.method))
              (some (.text h.url)))) :
          StateM Site (Except (Except ValueFault ErrorBody) (Int × Answer))) s₁).2.records =
            s₁.records :=
      (answerError_frames _ _ _).bind (fun _ => .pure _) s₁
    unfold HttpRequest.answer
    rcases hread : h.read with refusal | r <;> simp only [runOn_bind]
    · exact .shed (.of_records (htold refusal s))
    · have hstep : (Event.httpRequest h).Step s (runOn r.answer.run s).2 :=
        r.step (fun _ => h.typed_of_read hread) s
      rcases hact : runOn r.answer.run s with ⟨refusal | a, s'⟩ <;> rw [hact] at hstep
      · exact hstep.of_records (fun _ => by simp) (htold refusal s')
      · exact hstep

/-! ### Sessions -/

/-- **What every event keeps is kept by sessions.** -/
theorem runSession_keeps {I : Site → Prop} {events : List Event}
    (hstep : ∀ e ∈ events, ∀ s s', I s → e.Step s s' → I s') {s : Site} (hs : I s) :
    I (runOn (runSession events) s).2 := by
  induction events generalizing s with
  | nil => exact hs
  | cons e rest ih =>
    have hs' : I (runOn e.run s).2 := hstep e List.mem_cons_self _ _ hs (e.step s)
    exact ih (fun e' he' => hstep e' (List.mem_cons_of_mem _ he')) hs'

/-- **The sites that sessions lead to**, from any site without batches and by typed events. -/
def Site.Reachable (s : Site) : Prop :=
  ∃ start events, start.batches = [] ∧ (∀ e ∈ events, Event.Typed e) ∧
    s = (runOn (runSession events) start).2

/-- **What all steps keep** holds on every reachable site, if it holds without batches. -/
theorem Site.Reachable.induction {I : Site → Prop} {s : Site} (hs : s.Reachable)
    (hstart : ∀ start : Site, start.batches = [] → I start)
    (hstep : ∀ e : Event, e.Typed → ∀ s s', I s → e.Step s s' → I s') : I s := by
  obtain ⟨start, events, hbatches, htyped, rfl⟩ := hs
  exact runSession_keeps (fun e he => hstep e (htyped e he)) (hstart start hbatches)

/-! ### Batches -/

/-- Changes that others make leave the batches alone. -/
lemma SiteChange.apply_batches (c : SiteChange) (s : Site) :
    (c.apply s).batches = s.batches ∧ (c.apply s).batchCount = s.batchCount := by
  rcases c with _ | _ | _ | _ | _ | ⟨_ | _ | _ | _, _⟩ | _ | _ | _ | _ <;> exact ⟨rfl, rfl⟩

/-- A row of a table that another row has been put into. -/
lemma mem_putRow {α κ : Type} [BEq κ] {key : α → κ} {row r : α} {rows : List α}
    (h : r ∈ putRow key row rows) : r = row ∨ r ∈ rows := by
  unfold putRow at h
  split_ifs at h
  · obtain ⟨r₀, hr₀, rfl⟩ := List.mem_map.mp h
    split_ifs
    · exact .inl rfl
    · exact .inr hr₀
  · rcases List.mem_append.mp h with h | h
    · exact .inr h
    · exact .inl (List.mem_singleton.mp h)

/-- A row of a table with the key of another row that has been put into it is that row. -/
lemma eq_of_mem_putRow {α κ : Type} [BEq κ] [LawfulBEq κ] {key : α → κ} {row r : α} {rows : List α}
    (h : r ∈ putRow key row rows) (hkey : key r = key row) : r = row := by
  unfold putRow at h
  split_ifs at h with hany
  · obtain ⟨r₀, -, rfl⟩ := List.mem_map.mp h
    split_ifs at hkey ⊢ with hsame
    · rfl
    · exact absurd (beq_iff_eq.mpr hkey) hsame
  · rcases List.mem_append.mp h with h | h
    · have hfound : (rows.any fun r => key r == key row) = true :=
        List.any_eq_true.mpr ⟨r, h, beq_iff_eq.mpr hkey⟩
      exact absurd hfound hany
    · exact List.mem_singleton.mp h

/-- A row with another key stays where a row is put into its table. -/
lemma mem_putRow_of_ne {α κ : Type} [BEq κ] [LawfulBEq κ] {key : α → κ} {row r : α}
    {rows : List α} (h : r ∈ rows) (hne : key r ≠ key row) : r ∈ putRow key row rows := by
  unfold putRow
  split_ifs
  · exact List.mem_map.mpr ⟨r, h, if_neg (by simpa using hne)⟩
  · exact List.mem_append_left _ h

/-- The count of batches never goes back. -/
lemma Event.Step.batchCount_le {e : Event} {s s' : Site} (h : e.Step s s') :
    s.batchCount ≤ s'.batchCount := by
  cases h with
  | @change c _ _ hs' =>
    rw [hs']
    exact Nat.le_of_eq (c.apply_batches s).2.symm
  | shed h => exact Nat.le_of_eq h.batchCount.symm
  | @keep quizId form quiz content run _ hmode h hs' =>
    have hcount := congrArg (·.batchCount) hs'
    change s'.batchCount = s.batchCount + 1 at hcount
    omega
  | @commit quizId importId origin _ hs' =>
    have hcount := congrArg (·.batchCount) hs'
    exact Nat.le_of_eq (hcount.trans (ImportService.commit_spares _ _ _ _).batchCount).symm

/-- **The batches after an event** have been there, or one of them is that of a preview. -/
theorem Event.Step.batches {e : Event} {s s' : Site} (h : e.Step s s') {batch : Batch}
    (hbatch : batch ∈ s'.batches) :
    batch ∈ s.batches ∨ ∃ quizId form quiz content run,
      (e.Typed → ∃ kind, form.mode = .kind kind) ∧
      ImportService.Examined s quizId form quiz content run ∧
      batch = s.newBatch quiz.id form.mode form.delimiter content run.generatedPasswords := by
  cases h with
  | @change c _ _ hs' =>
    rw [hs', (c.apply_batches s).1] at hbatch
    exact .inl hbatch
  | shed h => exact .inl (h.batches.subset hbatch)
  | @keep quizId form quiz content run _ hmode h hs' =>
    have hbatches := congrArg (·.batches) hs'
    change s'.batches = putRow _ _ _ at hbatches
    rw [hbatches] at hbatch
    rcases mem_putRow hbatch with rfl | hbatch
    · exact .inr ⟨quizId, form, quiz, content, run, hmode, h, rfl⟩
    · exact .inl hbatch
  | @commit quizId importId origin _ hs' =>
    have hbatches := congrArg (·.batches) hs'
    change s'.batches = (runOn (ImportService.commit quizId importId origin).run s).2.batches
      at hbatches
    rw [hbatches] at hbatch
    exact .inl ((ImportService.commit_spares _ _ _ _).batches.subset hbatch)

/-! ### A small site -/

/-- A site with one quiz and two users. The first of them has an override. Passwords are short. -/
def smallSite : Site :=
  { users := [⟨"u-1", "ann", none, none, none⟩, ⟨"u-2", "bob", none, none, none⟩]
    quizzes := [⟨"00000000-0000-4000-8000-0000000000a1", "c-1", some "Quiz", none⟩]
    overrides :=
      [⟨some "first", .forSubject (.given "00000000-0000-4000-8000-0000000000a1") .user
        (some "u-1") ⟨none, none, none, some (.finite 1), none⟩⟩]
    rollback := .rows
    options := { ImportOptions.standard with passwordLength := 2 } }

/-- The quiz of the small site. -/
def smallQuiz : Field String := .given "00000000-0000-4000-8000-0000000000a1"

/-- The first batch of a site. -/
def firstBatch : Field String := .given (Batches.generatedId 1)

/-- An upload that replaces the override of the first user and inserts one, with a generated
password, for the second. -/
def smallFile : ByteArray :=
  ("userid,useridnumber,username,timeopen,timeclose,timelimit,attempts,password,generate\n" ++
    ",,ann,,,60\n,,bob,,,,,,1").toUTF8

/-- How the small file is to be read. -/
def smallForm : ImportForm := ⟨.kind .user, .named .comma, none⟩

/-- The preview of the small file. -/
def smallUpload : Event :=
  .request (.preview smallQuiz (some ⟨.given "text/csv", smallFile⟩) smallForm ⟨none, none⟩)

/-- The small upload names a kind of subjects. -/
lemma smallUpload_typed : smallUpload.Typed := ⟨.user, rfl⟩

/-- The commit of the first batch. -/
def smallCommit : Event := .request (.commit smallQuiz firstBatch ⟨none, none⟩)

/-- The overrides of the small site have ids. -/
lemma smallSite_hasIds : smallSite.HasIds := by
  simp [Site.HasIds, smallSite]

/-- The table of the small site is well formed. -/
lemma smallSite_wellFormed : WellFormed smallSite.overrides where
  ids_nodup := by decide
  id_given := by simp [smallSite]
  single := by simp [smallSite, OverrideData.HasOneSubject, OverrideData.forSubject]
  unique k := List.length_filter_le _ smallSite.overrides

/-- The ids of the small site are not taken by the next inserts. -/
lemma smallSite_fresh : Fresh 0 smallSite.overrides := by
  intro m _ o ho hid
  obtain rfl := List.mem_singleton.mp ho
  -- the first letters are different
  have hletter := congrArg (fun id => id.toList.head?) (Option.some.inj hid)
  simp [generatedId] at hletter

/-- The small site after its upload. -/
def uploadedSite : Site := (runOn (runSession [smallUpload]) smallSite).2

/-- The site after the upload can be reached. -/
lemma uploadedSite_reachable : uploadedSite.Reachable :=
  ⟨smallSite, [smallUpload], rfl, by simpa using smallUpload_typed, rfl⟩

/-- The upload has written no override. -/
lemma uploadedSite_tables : uploadedSite.users = smallSite.users ∧
    uploadedSite.groups = [] ∧ uploadedSite.overrides = smallSite.overrides ∧
    uploadedSite.overrideCount = 0 := by
  decide +kernel

/-- The overrides of the site after the upload have ids. -/
lemma uploadedSite_hasIds : uploadedSite.HasIds := by
  unfold Site.HasIds
  rw [uploadedSite_tables.1, uploadedSite_tables.2.1]
  exact smallSite_hasIds

end QuizOverrides
