import QuizOverrides.Proofs.BatchLifecycle
import QuizOverrides.Proofs.Pinned
import QuizOverrides.Proofs.Reports

set_option autoImplicit false

/-!
# What previews do

A preview writes to no table before it has gone through the whole upload, and then it saves its
batch. So it has either kept the upload as one batch, or changed neither the overrides nor the
batches nor the audit trail.

## Main definitions

* `QuizOverrides.KeepsPasswords` — passwords are those that rows show for the records that ask.
* `QuizOverrides.Preview.KeptAs` — a batch is what a preview keeps of its upload.

## Main results

* `QuizOverrides.Site.Passes.keepsPasswords` — the passwords that a run generates.
* `QuizOverrides.ImportService.preview_atomic` — what a preview changes.
-/

namespace QuizOverrides

open QuizOverrides.Action

/-! ### Passwords -/

/-- **Passwords are kept of rows**: under the number of each record that asks for one, and under no
other, and each of them is the one that the row of this number shows. -/
structure KeepsPasswords (records : List (List String)) (rows : List ImportRow)
    (passwords : RowPasswords) : Prop where
  nodup : (passwords.map Prod.fst).Nodup
  keys : ∀ n, n ∈ passwords.map Prod.fst ↔ ∃ i record, n = i + 1 ∧ records[i]? = some record ∧
    (Cells.ofRecord record).generate = Cells.generateYes
  shown : ∀ n password, (n, password) ∈ passwords →
    (∃ row ∈ rows, row.number = n) ∧ ∀ row ∈ rows, row.number = n →
      row.generated = true ∧ row.draft.data.values.password = some password

/-- The entry of a row with a generated password. -/
lemma ImportRow.passwordEntry_eq_some {row : ImportRow} {n : Nat} {password : String} :
    row.passwordEntry = some (n, password) ↔
      row.generated = true ∧ row.draft.data.values.password = some password ∧ row.number = n := by
  unfold passwordEntry
  split_ifs with hgenerated
  · simp only [Option.map_eq_some_iff, Prod.mk.injEq]
    constructor
    · rintro ⟨p, hp, hnumber, rfl⟩
      exact ⟨hgenerated, hp, hnumber⟩
    · rintro ⟨-, hp, hnumber⟩
      exact ⟨password, hp, hnumber, rfl⟩
  · simp [hgenerated]

/-- **The passwords that a run generates** are kept of its rows, marked as duplicates or not.

**Proof sketch.** A row generates a password only if its record asks for one, and a record that asks
for one is not blank, so that it is listed whatever errors it has. Rows are numbered in order, so a
number leads to one row. -/
theorem Site.Passes.keepsPasswords {s : Site} {table : Csv.Table} {mode : Mode} {quiz : Quiz}
    {run : ImportRun} (h : s.Passes table mode quiz [] run) :
    KeepsPasswords table.records run.rows run.generatedPasswords := by
  obtain ⟨rows, hlists, hrows⟩ := h.listed
  refine ⟨?nodup, fun n => ⟨fun hn => ?asked, ?kept⟩, fun n password hentry => ?shown⟩
  case nodup =>
    have hsorted : run.generatedPasswords.Pairwise fun entry entry' => entry.1 < entry'.1 := by
      refine h.sorted.filterMap _ fun row row' hlt entry hentry entry' hentry' => ?_
      rwa [ImportRow.fst_of_passwordEntry hentry, ImportRow.fst_of_passwordEntry hentry']
    exact (List.pairwise_map.mpr hsorted).imp Nat.ne_of_lt
  case asked =>
    obtain ⟨⟨m, password⟩, hentry, rfl⟩ := List.mem_map.mp hn
    rw [generatedPasswords_eq hrows] at hentry
    obtain ⟨row, hrow, hentry⟩ := List.mem_filterMap.mp hentry
    obtain ⟨hgenerated, -, rfl⟩ := ImportRow.passwordEntry_eq_some.mp hentry
    -- only a cell that asks for a password makes a row generate one
    have hgenerate := hlists.generate_of_generated hrow hgenerated
    obtain ⟨record, _, ⟨hlt, hrecord⟩, -, hlisting⟩ := hlists.exists_record hrow
    have hcells : row.cells = Cells.ofRecord record := by
      generalize row.number = k at hlisting
      obtain ⟨-, rfl⟩ := listing_eq_some.mp hlisting
      rfl
    exact ⟨_, record, by dsimp only; omega, hrecord, hcells ▸ hgenerate⟩
  case kept =>
    rintro ⟨i, record, rfl, hrecord, hgenerate⟩
    obtain ⟨password, hlookup, -⟩ := hlists.exists_generated hrows hrecord hgenerate
    obtain ⟨before, after, hlist, -⟩ := List.lookup_eq_some_iff.mp hlookup
    rw [hlist]
    simp
  case shown =>
    obtain ⟨row, hrow, hentry⟩ := List.mem_filterMap.mp hentry
    obtain ⟨hgenerated, hpassword, rfl⟩ := ImportRow.passwordEntry_eq_some.mp hentry
    refine ⟨⟨row, hrow, rfl⟩, fun row' hrow' hnumber => ?_⟩
    -- a number leads to one row, marked as a duplicate or not
    have hnodup : (run.rows.map ImportRow.number).Nodup :=
      (List.pairwise_map.mpr h.sorted).imp Nat.ne_of_lt
    obtain rfl := List.inj_on_of_nodup_map hnodup hrow' hrow hnumber
    exact ⟨hgenerated, hpassword⟩

/-! ### Batches -/

/-- **What a preview keeps of an upload**: a batch of the quiz with the mode, the delimiter and the
text of the upload, as the decoders of the runtime read it, and with the passwords that have been
generated for its records. -/
structure Preview.KeptAs (p : Preview) (decoders : Decoders) (quizId : Field String)
    (bytes : ByteArray) (form : ImportForm) (batch : Batch) : Prop where
  id : batch.id = p.importId
  quiz : quizId = .given batch.quizId
  mode : batch.mode = form.mode
  delimiter : batch.delimiter = form.delimiter
  content : ∃ label, ImportService.encodingLabel form = .ok label ∧
    decodeUpload decoders label bytes = .ok batch.content
  passwords : ∃ table, Csv.Table.ofChoice batch.content form.delimiter = .ok table ∧
    KeepsPasswords table.records p.rows batch.passwords

namespace ImportService

variable {quizId : Field String} {bytes : ByteArray} {form : ImportForm} {origin : RequestOrigin}
  {s s' : Site}

/-- **A preview that returns** has kept its upload, as a batch that comes after all others if its
identifier was free, and changed nothing else that is recorded. -/
lemma preview_keeps {p : Preview} (h : (preview quizId bytes form origin).Returns s p s') :
    ∃ batch, p.KeptAs s.runtime.decoders quizId bytes form batch ∧ s'.overrides = s.overrides ∧
      s'.batches = putRow Batch.id batch s.batches ∧
      (s.FreshBatches → s'.batches = s.batches ++ [batch]) := by
  obtain ⟨quiz, content, run, _, hexamine, rfl, hs'⟩ := preview_returns_examine h
  obtain ⟨hcontent, hexamined⟩ := examine_returns_decoded hexamine
  obtain ⟨table, htable, hpasses⟩ := hexamined.passes
  have hbatches := congrArg (·.batches) hs'
  exact ⟨s.newBatch quiz.id form.mode form.delimiter content run.generatedPasswords,
    ⟨rfl, given_of_quiz? hexamined.quiz, rfl, rfl, hcontent, table, htable, hpasses.keepsPasswords⟩,
    congrArg (·.overrides) hs', hbatches, fun hfresh => hbatches.trans (hfresh.putRow_eq rfl)⟩

/-- **Previews are atomic**, whatever the upload and wherever storage fails. A preview never changes
the overrides. If it throws, the batches and the audit trail are as they were. If it returns, it has
kept the upload as a batch, which is the one batch that has been added if its identifier was free.
-/
theorem preview_atomic (quizId : Field String) (bytes : ByteArray) (form : ImportForm)
    (origin : RequestOrigin) (s : Site) :
    (runOn (preview quizId bytes form origin).run s).2.overrides = s.overrides ∧
    (∀ e s', (preview quizId bytes form origin).Throws s e s' →
      s'.overrides = s.overrides ∧ s'.batches = s.batches ∧ s'.audit = s.audit) ∧
    ∀ p s', (preview quizId bytes form origin).Returns s p s' →
      ∃ batch, p.KeptAs s.runtime.decoders quizId bytes form batch ∧
        s'.batches = putRow Batch.id batch s.batches ∧
        (s.FreshBatches → s'.batches = s.batches ++ [batch]) := by
  refine ⟨?overrides, fun e s' h => ?throws, fun p s' h => ?returns⟩
  case overrides =>
    rcases returns_or_throws (preview quizId bytes form origin) s with ⟨p, s', h⟩ | ⟨e, s', h⟩
    · obtain ⟨batch, -, hoverrides, -⟩ := preview_keeps h
      rwa [show runOn (preview quizId bytes form origin).run s = _ from h]
    · rw [show runOn (preview quizId bytes form origin).run s = _ from h]
      exact congrArg (·.overrides) (preview_throws h)
  case throws =>
    exact ⟨congrArg (·.overrides) (preview_throws h), congrArg (·.batches) (preview_throws h),
      preview_throws_audit h⟩
  case returns =>
    obtain ⟨batch, hkept, -, hbatches⟩ := preview_keeps h
    exact ⟨batch, hkept, hbatches⟩

/-- The preview of the small file is kept, unless its batch cannot be saved. -/
theorem preview_atomic_smallFile :
    (∃ p s' batch, (preview smallQuiz smallFile smallForm ⟨none, none⟩).Returns smallSite p s' ∧
      p.KeptAs smallSite.runtime.decoders smallQuiz smallFile smallForm batch ∧
      s'.overrides = smallSite.overrides ∧ s'.batches = smallSite.batches ++ [batch]) ∧
    ∃ e s', (preview smallQuiz smallFile smallForm ⟨none, none⟩).Throws
        { smallSite with faults := [⟨.batches, .save, 1, .error "connection lost"⟩] } e s' ∧
      s'.overrides = smallSite.overrides ∧ s'.batches = smallSite.batches ∧
      s'.audit = smallSite.audit := by
  have hruns : (runOn (preview smallQuiz smallFile smallForm ⟨none, none⟩).run
        smallSite).1.isOk = true ∧
      (runOn (preview smallQuiz smallFile smallForm ⟨none, none⟩).run
        { smallSite with faults := [⟨.batches, .save, 1, .error "connection lost"⟩] }).1.isOk =
        false := by
    decide +kernel
  obtain ⟨p, hreturns⟩ := exists_returns_of_isOk hruns.1
  obtain ⟨e, hthrows⟩ := exists_throws_of_isOk hruns.2
  have hfresh : smallSite.FreshBatches := by simp [Site.FreshBatches, smallSite]
  obtain ⟨hoverrides, -, hkeeps⟩ :=
    preview_atomic smallQuiz smallFile smallForm ⟨none, none⟩ smallSite
  obtain ⟨batch, hkept, -, hadded⟩ := hkeeps p _ hreturns
  obtain ⟨-, hatomic, -⟩ := preview_atomic smallQuiz smallFile smallForm ⟨none, none⟩
    { smallSite with faults := [⟨.batches, .save, 1, .error "connection lost"⟩] }
  obtain ⟨hkept₁, hkept₂, hkept₃⟩ := hatomic e _ hthrows
  exact ⟨⟨p, _, batch, hreturns, hkept, hoverrides, hadded hfresh⟩, e, _, hthrows, hkept₁, hkept₂,
    hkept₃⟩

end ImportService

end QuizOverrides
