import QuizOverrides.Proofs.CertainCommits

set_option autoImplicit false

/-!
# The order of records

What a row says, but for its number and a generated password, is a matter of its record and of the
site. Two files with the same records in another order therefore have the same rows in another
order. Whether one of them can be imported, and what it makes of the override of each subject, does
not depend on the order.

## Main definitions

* `QuizOverrides.ImportRow.essence` — what a row says of its record.
* `QuizOverrides.RowsAgree` — the rows of two files say the same.
* `QuizOverrides.SameValues` — two tables have the same values for a key.
* `QuizOverrides.GeneratesFor` — a password is generated for a key.

## Main results

* `QuizOverrides.Site.Lists.map_essence` — what the rows of a file say, by its records.
* `QuizOverrides.ImportRun.canImport_of_perm` — whether a run can be imported.
* `QuizOverrides.RowsAgree.filter_applied` — the overrides of a key after the rows of both files.
* `QuizOverrides.imports_of_perm` — two files with the same records.
-/

namespace QuizOverrides

open QuizOverrides.Action

/-! ### What a row says of its record -/

/-- The data without a password. -/
def OverrideData.withoutPassword (d : OverrideData) : OverrideData :=
  { d with values := { d.values with password := none } }

/-- The draft without a password. -/
def OverrideDraft.withoutPassword (d : OverrideDraft) : OverrideDraft :=
  ⟨d.id, d.data.withoutPassword⟩

/-- **What a row says of its record**: all but its number and a generated password. -/
def ImportRow.essence (row : ImportRow) : ImportRow :=
  { row with
    number := 0
    draft := if row.generated then row.draft.withoutPassword else row.draft }

/-- The password is the only part of the data that depends on it. -/
lemma RunSettings.draftData_withoutPassword (st : RunSettings) (row : ValidatedRow)
    (password password' : Option String) :
    (st.draftData row password).withoutPassword = (st.draftData row password').withoutPassword := by
  rcases st with ⟨⟨_ | _⟩ | given, quiz, pinned⟩ <;> rfl

/-- What a record is listed with, whatever its number and its password are. -/
def Site.essenceOf (s : Site) (st : RunSettings) (record : List String) : Option ImportRow :=
  (s.listing st 0 record (s.rowOf st record).fields.password).map ImportRow.essence

/-- What a record lists says the same, whichever password it may get. -/
lemma Site.listing_essence {s : Site} {st : RunSettings} (number : Nat) {record : List String}
    {pinned password : Option String} (h : s.MayGive (s.rowOf st record) pinned password) :
    (s.listing st number record password).map ImportRow.essence = s.essenceOf st record := by
  unfold essenceOf listing RunSettings.listed
  dsimp only
  split_ifs with hskip
  · rfl
  · unfold MayGive at h
    cases hasks : (s.rowOf st record).asksPassword with
    | false =>
      -- the password is that of the record
      rw [hasks] at h
      obtain rfl : password = (s.rowOf st record).fields.password := h
      rfl
    | true =>
      simp only [Option.map_some, ImportRow.essence, if_true, OverrideDraft.withoutPassword]
      rw [st.draftData_withoutPassword]

/-- **What the rows of a file say** is what its records are listed with. -/
theorem Site.Lists.map_essence {s : Site} {st : RunSettings} {number : Nat}
    {records : List (List String)} {rows : List ImportRow} (h : s.Lists st number records rows) :
    rows.map ImportRow.essence = records.filterMap (s.essenceOf st) := by
  induction h with
  | nil => rfl
  | @cons n record rest rows password hpassword _ ih =>
    rw [List.map_append, ih, List.filterMap_cons, ← listing_essence (n + 1) hpassword]
    cases s.listing st (n + 1) record password <;> rfl

/-! ### Rows that say the same -/

/-- **The rows of two files say the same**, in some order. -/
def RowsAgree (rows rows' : List ImportRow) : Prop :=
  (rows.map ImportRow.essence).Perm (rows'.map ImportRow.essence)

/-- The rows of files with the same records say the same. -/
lemma Site.Lists.agree {s : Site} {st : RunSettings} {records records' : List (List String)}
    {rows rows' : List ImportRow} (h : s.Lists st 0 records rows) (h' : s.Lists st 0 records' rows')
    (hperm : records.Perm records') : RowsAgree rows rows' := by
  unfold RowsAgree
  rw [h.map_essence, h'.map_essence]
  exact hperm.filterMap _

namespace RowsAgree

variable {rows rows' : List ImportRow}

/-- Files that agree in their rows do so both ways. -/
lemma symm (h : RowsAgree rows rows') : RowsAgree rows' rows := List.Perm.symm h

/-- What each row says, a row of the other file says as well. -/
lemma exists_mem (h : RowsAgree rows rows') {row : ImportRow} (hrow : row ∈ rows) :
    ∃ row' ∈ rows', row'.essence = row.essence := by
  have hmem : row.essence ∈ rows'.map ImportRow.essence :=
    (List.Perm.mem_iff h).mp (List.mem_map_of_mem hrow)
  exact List.mem_map.mp hmem

/-- The rows of one file are free of errors and about different subjects if those of the other
are. -/
lemma errorless (h : RowsAgree rows rows')
    (herrors : ∀ row ∈ rows, row.errors.isEmpty = true)
    (hnodup : (rows.filterMap ImportRow.knownSubject).Nodup) :
    (∀ row ∈ rows', row.errors.isEmpty = true) ∧
      (rows'.filterMap ImportRow.knownSubject).Nodup := by
  constructor
  · intro row' hrow'
    obtain ⟨row, hrow, hsame⟩ := h.symm.exists_mem hrow'
    have hsame : row.errors = row'.errors := congrArg (·.errors) hsame
    rw [← hsame]
    exact herrors row hrow
  · have hknown (l : List ImportRow) :
        l.filterMap ImportRow.knownSubject =
          (l.map ImportRow.essence).filterMap ImportRow.knownSubject := by
      rw [List.filterMap_map]
      rfl
    rw [hknown] at hnodup ⊢
    exact ((List.Perm.filterMap ImportRow.knownSubject h).nodup_iff).mp hnodup

/-- As many rows of one file as of the other have an action. -/
lemma countAll_eq (h : RowsAgree rows rows') (summary : CommitSummary) :
    summary.countAll (rows.map ImportRow.change) =
      summary.countAll (rows'.map ImportRow.change) := by
  have hcount (a : OverrideAction) :
      (rows.map ImportRow.change).countP (fun c => c.action == a) =
        (rows'.map ImportRow.change).countP fun c => c.action == a := by
    have hperm := List.Perm.countP_eq (fun row : ImportRow => row.action == a) h
    rw [List.countP_map, List.countP_map] at hperm ⊢
    exact hperm
  rw [CommitSummary.countAll_eq, CommitSummary.countAll_eq, hcount, hcount, hcount]

end RowsAgree

/-! ### Whether a run can be imported -/

namespace ImportRun

/-- **A run can be imported** if one over the same records in another order can. -/
theorem canImport_of_perm {s : Site} {run run' : ImportRun}
    (hsettings : run'.settings = run.settings)
    (hcolumns : run'.table.columns = run.table.columns)
    (hperm : run.table.records.Perm run'.table.records)
    (hcan : (runOn run.process s).1.2.canImport = true) :
    (runOn run'.process s).1.2.canImport = true := by
  obtain ⟨haccepted, hheader, hunstopped⟩ := accepted_of_canImport hcan
  have hheader' : checkHeader run'.settings.mode run'.table.columns = none := by
    rw [hsettings, hcolumns]
    exact hheader
  -- the scans make the same accesses, in some order
  have hunstopped' : (runOn (scanRecords run'.settings 0 run'.table.records) s).1.2 = none := by
    rw [← Option.isNone_iff_eq_none, (scanRecords_accesses _ _ _ _).2] at hunstopped ⊢
    rcases hstrikes : strikes (run.table.records.flatMap (s.accessesOf run.settings)) s.faults
      with ⟨_ | e, left⟩
    · rw [hsettings, strikes_perm (hperm.flatMap_right _) hstrikes]
      rfl
    · rw [hstrikes] at hunstopped
      simp at hunstopped
  obtain ⟨rows', s₁, hscan'⟩ :
      ∃ rows' s₁, runOn (scanRecords run'.settings 0 run'.table.records) s = ((rows', none), s₁) :=
    ⟨_, _, Prod.ext (Prod.ext rfl hunstopped') rfl⟩
  obtain ⟨done', s₂, hprocess', -⟩ := process_of_scan hheader' hscan'
  obtain ⟨-, -, hprocessed', listed', hlists', hlisted'⟩ := process_accepts hprocess'
  have hprocess : runOn run.process s =
      ((.ok true, (runOn run.process s).1.2), (runOn run.process s).2) :=
    Prod.ext (Prod.ext haccepted rfl) rfl
  obtain ⟨hlists, herrors, hnodup⟩ := rows_of_canImport hprocess hcan
  rw [hsettings] at hlists'
  obtain ⟨herrors', hnodup'⟩ := (hlists.agree hlists' hperm).errorless herrors hnodup
  have hmarked : markDuplicates listed' = listed' := markFrom_of_nodup hnodup' fun _ _ => rfl
  rw [hprocess']
  refine Bool.and_eq_true_iff.mpr ⟨hprocessed', List.all_eq_true.mpr ?_⟩
  rw [hlisted', hmarked]
  exact herrors'

end ImportRun

/-! ### What becomes of the table -/

/-- **Two tables have the same values** for a key, but for a password that may differ. -/
structure SameValues (k : OverrideKey) (mayDiffer : Prop) (table table' : List Override) :
    Prop where
  settings : (table.filter k.owns).map (fun o => o.data.withoutPassword) =
    (table'.filter k.owns).map fun o => o.data.withoutPassword
  password : ¬mayDiffer →
    (table.filter k.owns).map Override.data = (table'.filter k.owns).map Override.data

/-- Two tables have the same values if the data for the key are the same but for a password. -/
lemma SameValues.of_data {k : OverrideKey} {mayDiffer : Prop} {table table' : List Override}
    (hsettings : ((table.filter k.owns).map Override.data).map OverrideData.withoutPassword =
      ((table'.filter k.owns).map Override.data).map OverrideData.withoutPassword)
    (hpassword : ¬mayDiffer →
      (table.filter k.owns).map Override.data = (table'.filter k.owns).map Override.data) :
    SameValues k mayDiffer table table' where
  settings := by
    rw [List.map_map, List.map_map] at hsettings
    exact hsettings
  password := hpassword

/-- Rows that say the same write the same, but for a generated password. -/
lemma ImportRow.data_of_essence {row row' : ImportRow} (h : row'.essence = row.essence) :
    row.draft.data.withoutPassword = row'.draft.data.withoutPassword ∧
      (row.generated = false → row.draft.data = row'.draft.data) := by
  have hgenerated : row'.generated = row.generated := congrArg (·.generated) h
  have hdraft := congrArg ImportRow.draft h
  unfold essence at hdraft
  dsimp only at hdraft
  rw [hgenerated] at hdraft
  cases hrow : row.generated with
  | false =>
    rw [hrow] at hdraft
    have hdata : row'.draft.data = row.draft.data := congrArg OverrideDraft.data hdraft
    rw [hdata]
    exact ⟨rfl, fun _ => rfl⟩
  | true =>
    rw [hrow] at hdraft
    have hdata : row'.draft.data.withoutPassword = row.draft.data.withoutPassword :=
      congrArg OverrideDraft.data hdraft
    exact ⟨hdata.symm, fun hfalse => absurd hfalse (by decide)⟩

/-- **A password is generated for a key**: a row about its subject asks for one. -/
def GeneratesFor (quizId : Field String) (kind : SubjectKind) (rows : List ImportRow)
    (k : OverrideKey) : Prop :=
  ∃ row ∈ rows, row.cells.generate = Cells.generateYes ∧
    ∃ x, row.subjectId = some x ∧ k = ⟨quizId, kind, x⟩

/-- The data of the override that a row settles. -/
lemma RowsFit.data_applied {quizId : Field String} {kind : SubjectKind} {table : List Override}
    {rows : List ImportRow} {row : ImportRow} {x : String} (h : RowsFit quizId kind table rows)
    (hwf : WellFormed table) (hrow : row ∈ rows) (hfits : row.Fits quizId kind table x) (n : Nat) :
    ((applied n (rows.map ImportRow.change) table).filter
        (OverrideKey.owns ⟨quizId, kind, x⟩)).map Override.data =
      if row.action = .delete then [] else [row.draft.data] := by
  by_cases hinsert : row.action = .insert
  · obtain ⟨-, m, -, heq⟩ := filter_applied_insert h hwf hrow hfits hinsert n
    rw [heq, if_neg (by simp [hinsert])]
    rfl
  · obtain ⟨o, -, heq⟩ := h.filter_applied_target hwf hrow hfits hinsert n
    rw [heq]
    split_ifs <;> rfl

/-- **The overrides of a key** after the rows of two files that say the same. -/
theorem RowsAgree.filter_applied {quizId : Field String} {kind : SubjectKind}
    {table : List Override} {rows rows' : List ImportRow} (h : RowsAgree rows rows')
    (hfit : RowsFit quizId kind table rows) (hfit' : RowsFit quizId kind table rows')
    (hwf : WellFormed table)
    (hasks : ∀ row ∈ rows, row.generated = true → row.cells.generate = Cells.generateYes)
    (n : Nat) (k : OverrideKey) :
    SameValues k (GeneratesFor quizId kind rows k) (applied n (rows.map ImportRow.change) table)
      (applied n (rows'.map ImportRow.change) table) := by
  by_cases hk : ∃ row ∈ rows, ∃ x, row.subjectId = some x ∧ k = ⟨quizId, kind, x⟩
  · obtain ⟨row, hrow, x, hx, rfl⟩ := hk
    obtain ⟨row', hrow', hsame⟩ := h.exists_mem hrow
    have hsubject : row'.subjectId = row.subjectId := congrArg (·.subjectId) hsame
    have haction : row'.action = row.action := congrArg (·.action) hsame
    obtain ⟨y, hfits⟩ := hfit.fits row hrow
    obtain rfl : y = x := Option.some.inj (hfits.subject.symm.trans hx)
    obtain ⟨y', hfits'⟩ := hfit'.fits row' hrow'
    obtain rfl : y' = y := Option.some.inj (hfits'.subject.symm.trans (hsubject.trans hx))
    obtain ⟨hsettings, hpassword⟩ := ImportRow.data_of_essence hsame
    have hdata := hfit.data_applied hwf hrow hfits n
    have hdata' := hfit'.data_applied hwf hrow' hfits' n
    rw [haction] at hdata'
    apply SameValues.of_data
    · rw [hdata, hdata']
      split_ifs
      · rfl
      · exact congrArg (fun d => [d]) hsettings
    · intro hnot
      -- no password is generated for the key, so the row has generated none
      have hgiven : row.generated = false := by
        refine Bool.eq_false_iff.mpr fun hgenerated => hnot ?_
        exact ⟨row, hrow, hasks row hrow hgenerated, y', hx, rfl⟩
      rw [hdata, hdata', hpassword hgiven]
  · -- no row of either file is about the key
    have hnone : ∀ row ∈ rows, ∀ x, row.subjectId = some x → k ≠ ⟨quizId, kind, x⟩ :=
      fun row hrow x hx heq => hk ⟨row, hrow, x, hx, heq⟩
    have hnone' : ∀ row' ∈ rows', ∀ x, row'.subjectId = some x → k ≠ ⟨quizId, kind, x⟩ := by
      intro row' hrow' x hx
      obtain ⟨row, hrow, hsame⟩ := h.symm.exists_mem hrow'
      have hsubject : row.subjectId = row'.subjectId := congrArg (·.subjectId) hsame
      exact hnone row hrow x (hsubject.trans hx)
    have hkept := hfit.filter_applied_of_not_mem hwf hnone n
    have hkept' := hfit'.filter_applied_of_not_mem hwf hnone' n
    constructor
    · rw [hkept, hkept']
    · intro _
      rw [hkept, hkept']

/-! ### Two files with the same records -/

/-- **An import that meets no fault** makes all of its changes. -/
lemma ImportRun.commit_of_unstruck {s s₁ t : Site} {run first done : ImportRun} {ok : Bool}
    (hids : (s.overrides.map Override.id).Nodup) (hfresh : Fresh s.overrideCount s.overrides)
    (hprocess : runOn run.process s = ((.ok true, first), s₁)) (hcan : first.canImport = true)
    (hcommit : runOn first.commit s₁ = ((ok, done), t)) (hunstruck : s₁.Unstruck t) :
    ok = true ∧ done.summary = some (CommitSummary.zero.countAll (ImportService.changesOf first)) ∧
      t.overrides = applied s.overrideCount (ImportService.changesOf first) s.overrides := by
  obtain ⟨hlists, herrors, hdistinct⟩ := rows_of_canImport hprocess hcan
  have happ := hlists.applicable herrors hdistinct hids
  have hrecords := run.process_frames s
  rw [hprocess] at hrecords
  obtain ⟨hoverrides, hcount⟩ := Site.overrides_of_records hrecords
  rw [← hoverrides] at happ
  rw [← hoverrides, ← hcount] at hfresh ⊢
  obtain ⟨_, _, _, hrun, hresult⟩ := ImportService.runOn_commit hcan s₁
  rw [hcommit] at hrun
  obtain ⟨hvalue, rfl⟩ := Prod.mk.inj hrun
  obtain ⟨rfl, rfl⟩ := Prod.mk.inj hvalue
  rcases hchanges : runOn (commitChanges (ImportService.changesOf first)).run s₁ with
    ⟨e | total, s₂⟩ <;>
    simp only [hchanges] at hresult
  · obtain ⟨-, -, -, line, rfl⟩ := hresult
    have hunstruck : s₁.Unstruck s₂ := hunstruck
    exact absurd hunstruck (commitChanges_not_unstruck happ hfresh hchanges)
  · obtain ⟨hok, -, hsummary, rfl⟩ := hresult
    obtain ⟨rfl, hadvanced⟩ := commitChanges_returns happ hfresh hchanges
    exact ⟨hok, hsummary, hadvanced.overrides⟩

/-- **The order of the records does not matter.** Let two files have the same header and the same
records, in any order, and let both be processed at one site, whose users, groups and overrides have
identifiers and whose overrides are those of different subjects. Then both or neither of them can be
imported. If they can, and both imports meet no fault, the counts are equal, and for every quiz,
kind of subject and subject the tables have the same values, except that generated passwords may
differ.

**Proof sketch.** What a row says of its record does not depend on the place of the record, so the
rows of the files say the same in another order; and the records ask for the same accesses, so that
storage stops both scans or none. Rows are marked only if two of them have errors or the same
subject, which the order does not change. Rows without errors are about different keys, and each
settles its own key alone. -/
theorem imports_of_perm {s s₁ s₁' : Site} {kind : SubjectKind} {quiz : Quiz}
    {run run' first first' : ImportRun} {result result' : Except StorageError Bool}
    (hsettings : run.settings = .ofQuiz (.kind kind) quiz [])
    (hsettings' : run'.settings = .ofQuiz (.kind kind) quiz [])
    (hcolumns : run'.table.columns = run.table.columns)
    (hperm : run.table.records.Perm run'.table.records)
    (hids : s.HasIds) (hwf : WellFormed s.overrides) (hfresh : Fresh s.overrideCount s.overrides)
    (hprocess : runOn run.process s = ((result, first), s₁))
    (hprocess' : runOn run'.process s = ((result', first'), s₁')) :
    first.canImport = first'.canImport ∧
      (first.canImport = true → ∀ (ok ok' : Bool) (done done' : ImportRun) (t t' : Site),
        runOn first.commit s₁ = ((ok, done), t) → runOn first'.commit s₁' = ((ok', done'), t') →
        s₁.Unstruck t → s₁'.Unstruck t' →
        (ok = true ∧ ok' = true) ∧
        (∃ total, done.summary = some total ∧ done'.summary = some total) ∧
        ∀ k : OverrideKey, SameValues k (GeneratesFor (.given quiz.id) kind first.rows k)
          t.overrides t'.overrides) := by
  have hfirst : (runOn run.process s).1.2 = first := by rw [hprocess]
  have hfirst' : (runOn run'.process s).1.2 = first' := by rw [hprocess']
  have hsame : run'.settings = run.settings := hsettings'.trans hsettings.symm
  have hcans : first.canImport = first'.canImport := by
    rw [Bool.eq_iff_iff, ← hfirst, ← hfirst']
    exact ⟨ImportRun.canImport_of_perm hsame hcolumns hperm,
      ImportRun.canImport_of_perm hsame.symm hcolumns.symm hperm.symm⟩
  refine ⟨hcans, fun hcan ok ok' done done' t t' hcommit hcommit' hunstruck hunstruck' => ?_⟩
  have hcan' : first'.canImport = true := hcans ▸ hcan
  -- a run that can be imported has been processed to its end
  obtain rfl : result = .ok true := by
    have haccepted := (ImportRun.accepted_of_canImport (hfirst ▸ hcan)).1
    rwa [hprocess] at haccepted
  obtain rfl : result' = .ok true := by
    have haccepted := (ImportRun.accepted_of_canImport (hfirst' ▸ hcan')).1
    rwa [hprocess'] at haccepted
  obtain ⟨hlists, herrors, hdistinct⟩ := ImportRun.rows_of_canImport hprocess hcan
  obtain ⟨hlists', herrors', hdistinct'⟩ := ImportRun.rows_of_canImport hprocess' hcan'
  rw [hsettings] at hlists
  rw [hsettings'] at hlists'
  have hagree : RowsAgree first.rows first'.rows := hlists.agree hlists' hperm
  obtain ⟨hok, hsummary, htable⟩ := ImportRun.commit_of_unstruck hwf.ids_nodup hfresh hprocess hcan
    hcommit hunstruck
  obtain ⟨hok', hsummary', htable'⟩ := ImportRun.commit_of_unstruck hwf.ids_nodup hfresh hprocess'
    hcan' hcommit' hunstruck'
  refine ⟨⟨hok, hok'⟩, ⟨_, hsummary, ?_⟩, fun k => ?_⟩
  · rw [hsummary']
    exact congrArg some (hagree.symm.countAll_eq _)
  · rw [htable, htable']
    exact hagree.filter_applied (hlists.rowsFit herrors hdistinct hids hwf)
      (hlists'.rowsFit herrors' hdistinct' hids hwf) hwf
      (fun row hrow => hlists.generate_of_generated hrow) _ k

/-- The run over the records of the small file in the other order. -/
def swappedRun : ImportRun :=
  { smallRun with table := ⟨smallRun.table.columns, smallRun.table.records.reverse⟩ }

/-- The small file comes to the same in both orders. -/
theorem imports_of_perm_smallRun :
    smallRun.table.records.Perm swappedRun.table.records ∧ smallSite.HasIds ∧
    WellFormed smallSite.overrides ∧ Fresh smallSite.overrideCount smallSite.overrides ∧
    ∃ result result' first first' s₁ s₁', runOn smallRun.process smallSite = ((result, first), s₁) ∧
      runOn swappedRun.process smallSite = ((result', first'), s₁') ∧
      first.canImport = true ∧ first'.canImport = true ∧
      ∃ done done' t t', runOn first.commit s₁ = ((true, done), t) ∧
        runOn first'.commit s₁' = ((true, done'), t') ∧ s₁.Unstruck t ∧ s₁'.Unstruck t' ∧
        (∃ total, done.summary = some total ∧ done'.summary = some total) ∧
        ∀ k : OverrideKey, SameValues k (GeneratesFor smallQuiz .user first.rows k)
          t.overrides t'.overrides := by
  have hperm : smallRun.table.records.Perm swappedRun.table.records :=
    (List.reverse_perm smallRun.table.records).symm
  have hsettings : smallRun.settings = .ofQuiz (.kind .user)
      ⟨"00000000-0000-4000-8000-0000000000a1", "c-1", some "Quiz", none⟩ [] := rfl
  have hsettings' : swappedRun.settings = smallRun.settings := rfl
  have hcolumns : swappedRun.table.columns = smallRun.table.columns := rfl
  have hcan : (runOn smallRun.process smallSite).1.2.canImport = true := by decide +kernel
  have hfaults : (runOn smallRun.process smallSite).2.faults = [] ∧
      (runOn (runOn smallRun.process smallSite).1.2.commit
        (runOn smallRun.process smallSite).2).2.faults = [] := by
    decide +kernel
  have hfaults' : (runOn swappedRun.process smallSite).2.faults = [] ∧
      (runOn (runOn swappedRun.process smallSite).1.2.commit
        (runOn swappedRun.process smallSite).2).2.faults = [] := by
    decide +kernel
  obtain ⟨result, first, s₁, hprocess⟩ := exists_runOn smallRun.process smallSite
  obtain ⟨result', first', s₁', hprocess'⟩ := exists_runOn swappedRun.process smallSite
  rw [hprocess] at hcan hfaults
  rw [hprocess'] at hfaults'
  obtain ⟨ok, done, t, hcommit⟩ := exists_runOn first.commit s₁
  obtain ⟨ok', done', t', hcommit'⟩ := exists_runOn first'.commit s₁'
  rw [hcommit] at hfaults
  rw [hcommit'] at hfaults'
  have hunstruck : s₁.Unstruck t := by
    unfold Site.Unstruck
    rw [show s₁.faults = [] from hfaults.1, show t.faults = [] from hfaults.2]
  have hunstruck' : s₁'.Unstruck t' := by
    unfold Site.Unstruck
    rw [show s₁'.faults = [] from hfaults'.1, show t'.faults = [] from hfaults'.2]
  obtain ⟨hsame, himports⟩ := imports_of_perm hsettings (hsettings'.trans hsettings) hcolumns
    hperm smallSite_hasIds smallSite_wellFormed smallSite_fresh hprocess hprocess'
  obtain ⟨⟨rfl, rfl⟩, htotal, hvalues⟩ := himports hcan ok ok' done done' t t' hcommit hcommit'
    hunstruck hunstruck'
  exact ⟨hperm, smallSite_hasIds, smallSite_wellFormed, smallSite_fresh, result, result', first,
    first', s₁, s₁', hprocess, hprocess', hcan, hsame ▸ hcan, done, done', t, t', hcommit, hcommit',
    hunstruck, hunstruck', htotal, hvalues⟩

end QuizOverrides
