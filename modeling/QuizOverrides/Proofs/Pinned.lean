import QuizOverrides.Proofs.Sessions

set_option autoImplicit false

/-!
# Pinned passwords

A preview generates a password for every record that asks for one, and keeps it with the upload.
At every later time the batch therefore has a password for each of these records, so that a commit
never generates one.

## Main definitions

* `QuizOverrides.Batch.HasPasswords` — a batch has a password for every record that asks for one.
* `QuizOverrides.Batch.Pinned` — so does a batch of a kind of subject.

## Main results

* `QuizOverrides.Site.Reachable.pinned` — all batches of reachable sites are such.
* `QuizOverrides.Site.Passes.exists_of_mem_generatedPasswords` — what passwords a preview keeps.
-/

namespace QuizOverrides

open QuizOverrides.Action

/-- **No password of a batch is missing**: it has one for every record that asks for one. -/
def Batch.HasPasswords (batch : Batch) : Prop :=
  ∀ table, Csv.Table.ofChoice batch.content batch.delimiter = .ok table →
    ∀ (i : Nat) (record : List String), table.records[i]? = some record →
      (Cells.ofRecord record).generate = Cells.generateYes →
      ∃ p, batch.passwords.lookup (i + 1) = some p

/-- **A batch of a kind of subject** that has a password for every record that asks for one. -/
structure Batch.Pinned (batch : Batch) : Prop where
  mode : ∃ kind, batch.mode = .kind kind
  password : ∀ table, Csv.Table.ofChoice batch.content batch.delimiter = .ok table →
    ∀ (i : Nat) (record : List String), table.records[i]? = some record →
      (Cells.ofRecord record).generate = Cells.generateYes →
      ∃ p, batch.passwords.lookup (i + 1) = some p

/-- The password of a row that asks for one, in a run without passwords of an earlier one. -/
lemma Site.Lists.exists_passwordFrom {s : Site} {mode : Mode} {quiz : Quiz} {number : Nat}
    {records : List (List String)} {rows : List ImportRow}
    (hl : s.Lists (.ofQuiz mode quiz []) number records rows) {row : ImportRow} (hrow : row ∈ rows)
    (hgenerated : row.generated = true) :
    ∃ k, row.draft.data.values.password = some (s.passwordFrom k) := by
  obtain ⟨record, password, -, hgives, hlisting⟩ := hl.exists_record hrow
  generalize row.number = n at hgives hlisting
  obtain ⟨-, rfl⟩ := listing_eq_some.mp hlisting
  have hasks : (s.rowOf (.ofQuiz mode quiz []) record).asksPassword = true := hgenerated
  unfold MayGive at hgives
  rw [if_pos hasks] at hgives
  obtain ⟨k, rfl⟩ := hgives
  refine ⟨k, ?_⟩
  rw [RunSettings.draftData_values]
  rfl

/-- **The passwords that a preview keeps** are generated ones. -/
lemma Site.Passes.exists_of_mem_generatedPasswords {s : Site} {table : Csv.Table} {mode : Mode}
    {quiz : Quiz} {run : ImportRun} (h : s.Passes table mode quiz [] run) {entry : Nat × String}
    (hentry : entry ∈ run.generatedPasswords) : ∃ k, entry.2 = s.passwordFrom k := by
  obtain ⟨rows, hlists, hrows⟩ := h.listed
  rw [generatedPasswords_eq hrows] at hentry
  obtain ⟨row, hrow, hentry⟩ := List.mem_filterMap.mp hentry
  unfold ImportRow.passwordEntry at hentry
  split_ifs at hentry with hgenerated
  obtain ⟨k, hk⟩ := hlists.exists_passwordFrom hrow hgenerated
  rw [hk] at hentry
  obtain rfl := Option.some.inj hentry
  exact ⟨k, rfl⟩

/-- A record that asks for a password has a row with a generated one, which is kept under the number
of the row. -/
lemma Site.Lists.exists_generated {s : Site} {mode : Mode} {quiz : Quiz}
    {records : List (List String)} {rows : List ImportRow} {run : ImportRun}
    (hl : s.Lists (.ofQuiz mode quiz []) 0 records rows) (hrows : run.rows = markDuplicates rows)
    {i : Nat} {record : List String} (hrecord : records[i]? = some record)
    (hgenerate : (Cells.ofRecord record).generate = Cells.generateYes) :
    ∃ p, run.generatedPasswords.lookup (i + 1) = some p ∧
      ∃ row ∈ rows, row.number = i + 1 ∧ row.draft.data.values.password = some p := by
  obtain ⟨row, hrow, hnumber, hgenerated⟩ :=
    hl.exists_row_of_asks hrecord (Site.asksPassword_rowOf.mpr hgenerate)
  obtain ⟨k, hk⟩ := hl.exists_passwordFrom hrow hgenerated
  have hlookup := hl.lookup_generatedPasswords hrows hrow hgenerated
  rw [Nat.zero_add] at hnumber
  rw [hnumber, hk] at hlookup
  exact ⟨s.passwordFrom k, hlookup, row, hrow, hnumber, hk⟩

/-- The batch of a preview has all of its passwords. -/
lemma ImportService.Examined.hasPasswords {s : Site} {quizId : Field String} {form : ImportForm}
    {quiz : Quiz} {content : String} {run : ImportRun}
    (h : Examined s quizId form quiz content run) :
    (s.newBatch quiz.id form.mode form.delimiter content run.generatedPasswords).HasPasswords := by
  intro table htable i record hrecord hgenerate
  obtain ⟨table', htable', hpasses⟩ := h.passes
  obtain rfl : table' = table := Except.ok.inj (htable'.symm.trans htable)
  obtain ⟨rows, hlists, hrows⟩ := hpasses.listed
  obtain ⟨p, hp, -⟩ := hlists.exists_generated hrows hrecord hgenerate
  exact ⟨p, hp⟩

/-- The batch of a preview of a kind of subject is pinned. -/
lemma ImportService.Examined.pinned {s : Site} {quizId : Field String} {form : ImportForm}
    {quiz : Quiz} {content : String} {run : ImportRun}
    (h : Examined s quizId form quiz content run) (hmode : ∃ kind, form.mode = .kind kind) :
    (s.newBatch quiz.id form.mode form.delimiter content run.generatedPasswords).Pinned where
  mode := hmode
  password := h.hasPasswords

/-- **All batches of reachable sites** have a password for every record that asks for one. -/
theorem Site.Reachable.pinned {s : Site} (hs : s.Reachable) :
    ∀ batch ∈ s.batches, batch.Pinned := by
  refine hs.induction (I := fun s => ∀ batch ∈ s.batches, batch.Pinned) ?_ ?_
  · intro start hstart batch hbatch
    rw [hstart] at hbatch
    simp at hbatch
  · intro e he s s' hpinned hstep batch hbatch
    rcases hstep.batches hbatch with hold | ⟨quizId, form, quiz, content, run, hmode, h, rfl⟩
    · exact hpinned batch hold
    · exact h.pinned (hmode he)

/-- The rows of a revalidated run, one by one. -/
lemma ImportService.Revalidated.listedRow {quizId importId : Field String} {s : Site} {quiz : Quiz}
    {batch : Batch} {run : ImportRun} (h : Revalidated s quizId importId quiz batch run)
    (hcan : run.canImport = true) (hpinned : batch.Pinned) {csv : Csv.Table}
    (hcsv : Csv.Table.ofChoice batch.content batch.delimiter = .ok csv) {row : ImportRow}
    (hrow : row ∈ run.rows) :
    ∃ record password, csv.records[row.number - 1]? = some record ∧
      s.ListedRow (.ofQuiz batch.mode quiz batch.passwords) row record password ∧
      (row.cells.generate = Cells.generateYes →
        ∃ p, batch.passwords.lookup row.number = some p) := by
  obtain ⟨table, htable, hpasses⟩ := h.passes
  obtain rfl : table = csv := Except.ok.inj (htable.symm.trans hcsv)
  obtain ⟨hlists, herrors, -⟩ := hpasses.rows_of_canImport hcan
  obtain ⟨record, password, hrecord, hlisted⟩ := hlists.listedRow hrow (herrors row hrow)
  obtain ⟨_, _, ⟨hnumber, -⟩, -⟩ := hlists.exists_record hrow
  refine ⟨record, password, hrecord, hlisted, fun hgenerate => ?_⟩
  rw [hlisted.cells] at hgenerate
  obtain ⟨p, hp⟩ := hpinned.password table hcsv _ record hrecord hgenerate
  rw [show row.number - 0 - 1 + 1 = row.number by omega] at hp
  exact ⟨p, hp⟩

end QuizOverrides
