import QuizOverrides.Proofs.FailedCommits
import QuizOverrides.Proofs.PreviewCommit
import QuizOverrides.Proofs.RowErrors

set_option autoImplicit false

/-!
# A commit that is made again

Where the removal of a batch has failed, its changes have been made and the commit can be made
again. The run over the upload then finds what the first one has written: every insert has become an
update to the data that are there, and every deletion has nothing to delete. Only a blank record
that was skipped may come to something else, where another record has given its subject an override
in the meantime.

## Main definitions

* `QuizOverrides.Site.RunsAgain` — a run over the table that an earlier one has written.
* `QuizOverrides.Site.Clash` — a blank record about the subject of an inserted row.

## Main results

* `QuizOverrides.Site.RunsAgain.row_cases` — what the rows of the second run are.
* `QuizOverrides.Site.RunsAgain.applied_eq` — without a clash their changes change nothing.
* `QuizOverrides.ImportService.commit_again` — what the second commit comes to.
-/

namespace QuizOverrides

open QuizOverrides.Action

/-- Where the values of a partial function are distinct, one value comes from one element. -/
lemma eq_of_nodup_filterMap {α β : Type} {f : α → Option β} {l : List α}
    (h : (l.filterMap f).Nodup) {a b : α} {x : β} (ha : a ∈ l) (hb : b ∈ l) (hax : f a = some x)
    (hbx : f b = some x) : a = b := by
  rw [List.Nodup, List.pairwise_filterMap] at h
  induction h with
  | nil => exact absurd ha List.not_mem_nil
  | cons hfirst _ ih =>
    rcases List.mem_cons.mp ha with rfl | ha' <;> rcases List.mem_cons.mp hb with rfl | hb'
    · rfl
    · exact absurd rfl (hfirst b hb' x hax x hbx)
    · exact absurd rfl (hfirst a ha' x hbx x hax)
    · exact ih ha' hb'

/-! ### The table that rows have been written to -/

section Written

variable {quizId : Field String} {kind : SubjectKind} {table : List Override}
  {rows : List ImportRow} {row : ImportRow} {x : String}

/-- The override that an insert or an update has written is the one that is found afterwards. -/
lemma RowsFit.find?_applied_of_written (h : RowsFit quizId kind table rows)
    (hwf : WellFormed table) (hrow : row ∈ rows) (hx : row.subjectId = some x)
    (haction : row.action ≠ .delete) (n : Nat) :
    ∃ id, id ≠ "" ∧ (applied n (rows.map ImportRow.change) table).find?
      (OverrideKey.owns ⟨quizId, kind, x⟩) = some ⟨some id, row.draft.data⟩ := by
  obtain ⟨x', hfits⟩ := h.fits row hrow
  obtain rfl : x' = x := Option.some.inj (hfits.subject.symm.trans hx)
  rw [← List.head?_filter]
  by_cases hinsert : row.action = .insert
  · obtain ⟨-, m, -, heq⟩ := filter_applied_insert h hwf hrow hfits hinsert n
    refine ⟨generatedId m, generatedId_ne_empty m, ?_⟩
    rw [heq]
    rfl
  · obtain ⟨o, hone, heq⟩ := h.filter_applied_target hwf hrow hfits hinsert n
    obtain ⟨ho, -⟩ := List.mem_filter.mp (hone ▸ List.mem_singleton_self o)
    obtain ⟨id, hid, hgiven⟩ := hwf.id_given o ho
    refine ⟨id, hgiven, ?_⟩
    rw [heq, if_neg haction, hid]
    rfl

/-- After a deletion no override is found. -/
lemma RowsFit.find?_applied_of_deleted (h : RowsFit quizId kind table rows)
    (hwf : WellFormed table) (hrow : row ∈ rows) (hx : row.subjectId = some x)
    (haction : row.action = .delete) (n : Nat) :
    (applied n (rows.map ImportRow.change) table).find?
      (OverrideKey.owns ⟨quizId, kind, x⟩) = none := by
  obtain ⟨x', hfits⟩ := h.fits row hrow
  obtain rfl : x' = x := Option.some.inj (hfits.subject.symm.trans hx)
  obtain ⟨o, -, heq⟩ := filter_applied_delete h hwf hrow hfits haction n
  rw [← List.head?_filter, heq]
  rfl

/-- For a subject without a row the override is found that was there. -/
lemma RowsFit.find?_applied_of_not_mem (h : RowsFit quizId kind table rows)
    (hwf : WellFormed table) (hx : ∀ row ∈ rows, row.subjectId ≠ some x) (n : Nat) :
    (applied n (rows.map ImportRow.change) table).find? (OverrideKey.owns ⟨quizId, kind, x⟩) =
      table.find? (OverrideKey.owns ⟨quizId, kind, x⟩) := by
  rw [← List.head?_filter, ← List.head?_filter,
    h.filter_applied_of_not_mem hwf (fun row hrow x' hx' heq => ?_) n]
  simp only [OverrideKey.mk.injEq, true_and] at heq
  exact hx row hrow (hx'.trans (congrArg some heq.symm))

end Written

/-! ### The second run -/

/-- With a password from an earlier run there is only one that a row may be given. -/
lemma Site.MayGive.unique {s t : Site} {row : ValidatedRow} {pinned p p' : Option String}
    (h : s.MayGive row pinned p) (h' : t.MayGive row pinned p')
    (hpinned : row.asksPassword = true → ∃ q, pinned = some q) : p' = p := by
  unfold Site.MayGive at h h'
  split_ifs at h h' with hasks
  · obtain ⟨q, rfl⟩ := hpinned hasks
    exact h'.trans h.symm
  · exact h'.trans h.symm

/-- **A run is made again**: the rows of a run over `records` at the site `s` have no errors and
have been written, the site `t` has the table that they have been written to, and has the same
subjects. All passwords are there. -/
structure Site.RunsAgain (s t : Site) (kind : SubjectKind) (quiz : Quiz) (pinned : RowPasswords)
    (records : List (List String)) (rows : List ImportRow) (n : Nat) : Prop where
  lists : s.Lists (.ofQuiz (.kind kind) quiz pinned) 0 records rows
  errorless : ∀ row ∈ rows, row.errors.isEmpty = true
  fit : RowsFit (.given quiz.id) kind s.overrides rows
  wellFormed : WellFormed s.overrides
  rowOf : t.rowOf (.ofQuiz (.kind kind) quiz pinned) = s.rowOf (.ofQuiz (.kind kind) quiz pinned)
  overrides : t.overrides = applied n (rows.map ImportRow.change) s.overrides
  passwords : ∀ (i : Nat) (record : List String), records[i]? = some record →
    (Cells.ofRecord record).generate = Cells.generateYes → ∃ p, pinned.lookup (i + 1) = some p

/-- **A clash**: a blank record that a run has skipped is about the subject of a row that the run
has inserted. -/
def Site.Clash (s : Site) (st : RunSettings) (records : List (List String))
    (rows : List ImportRow) (x : String) : Prop :=
  (∃ record ∈ records, (Cells.ofRecord record).isBlank = true ∧
    s.actionOf st record = .skip ∧ (s.rowOf st record).owner = some x) ∧
  ∃ row ∈ rows, row.action = .insert ∧ row.subjectId = some x

/-- A blank record is skipped if it is about no override, and deletes the override otherwise. -/
lemma Site.actionOf_of_blank {s : Site} {st : RunSettings} {record : List String}
    (hblank : (Cells.ofRecord record).isBlank = true) :
    s.actionOf st record = .skip ∧ given? (s.ownedBy st record) = none ∨
      s.actionOf st record = .delete ∧ ∃ id, given? (s.ownedBy st record) = some id := by
  unfold actionOf
  rw [hblank]
  rcases given? (s.ownedBy st record) with _ | id
  · exact .inl ⟨rfl, rfl⟩
  · exact .inr ⟨rfl, id, rfl⟩

namespace Site.RunsAgain

variable {s t : Site} {kind : SubjectKind} {quiz : Quiz} {pinned : RowPasswords}
  {records : List (List String)} {rows rows' : List ImportRow} {n : Nat} {row row' : ImportRow}
  {x : String} {csv : Csv.Table} {run : ImportRun}

/-- The row of a record that is not blank has been written for the subject of the record. -/
lemma exists_written (h : s.RunsAgain t kind quiz pinned records rows n) {i : Nat}
    {record : List String} (hrecord : records[i]? = some record)
    (hblank : (Cells.ofRecord record).isBlank = false) :
    ∃ row ∈ rows, ∃ x password, row.number = i + 1 ∧ row.action ≠ .delete ∧
      row.subjectId = some x ∧ (s.rowOf (.ofQuiz (.kind kind) quiz pinned) record).owner = some x ∧
      (s.rowOf (.ofQuiz (.kind kind) quiz pinned) record).fields.subjectId = some x ∧
      s.MayGive (s.rowOf (.ofQuiz (.kind kind) quiz pinned) record) (pinned.lookup (i + 1))
        password ∧
      row.errors = (s.rowOf (.ofQuiz (.kind kind) quiz pinned) record).errors ∧
      row.draft.data = (RunSettings.ofQuiz (.kind kind) quiz pinned).draftData
        (s.rowOf (.ofQuiz (.kind kind) quiz pinned) record) password := by
  obtain ⟨row, hrow, password, hnumber, hgives, hlisting⟩ :=
    h.lists.exists_row hrecord (actionOf_of_not_blank hblank)
  rw [Nat.zero_add] at hnumber
  rw [hnumber] at hgives hlisting
  have herrors := h.errorless row hrow
  obtain ⟨x, hfits⟩ := h.fit.fits row hrow
  have hsubject := hfits.subject
  refine ⟨row, hrow, x, password, hnumber, ?_, hsubject, ?_⟩
  · rw [hfits.action, show row.cells.isBlank = false by
      obtain ⟨-, rfl⟩ := listing_eq_some.mp hlisting; exact hblank]
    cases (given? row.draft.id).isSome <;> decide
  · obtain ⟨-, rfl⟩ := listing_eq_some.mp hlisting
    dsimp only at hsubject herrors ⊢
    refine ⟨?_, hsubject, hgives, rfl, rfl⟩
    rw [ValidatedRow.owner_of_errorless herrors, hsubject]

/-- **A record that is not blank** has an update in the second run, to the data that are there. -/
lemma update_of_not_blank (h : s.RunsAgain t kind quiz pinned records rows n) {i : Nat}
    {record : List String} (hrecord : records[i]? = some record)
    (hblank : (Cells.ofRecord record).isBlank = false) {password : Option String}
    (hgives : t.MayGive (t.rowOf (.ofQuiz (.kind kind) quiz pinned) record)
      (pinned.lookup (i + 1)) password)
    (hlisting : t.listing (.ofQuiz (.kind kind) quiz pinned) (i + 1) record password =
      some row') :
    row'.errors.isEmpty = true ∧ row'.action = .update ∧
      (∃ o ∈ t.overrides, row'.draft = ⟨o.id, o.data⟩) ∧
      ∃ row ∈ rows, row.number = i + 1 ∧ row.subjectId = row'.subjectId := by
  obtain ⟨row, hrow, x, password₀, hnumber, haction, hx, howner, hsubject, hgives₀, herrors,
    hdata⟩ :=
    h.exists_written hrecord hblank
  have hpinned : (s.rowOf (.ofQuiz (.kind kind) quiz pinned) record).asksPassword = true →
      ∃ p, pinned.lookup (i + 1) = some p := fun hasks =>
    h.passwords i record hrecord (asksPassword_rowOf.mp hasks)
  rw [h.rowOf] at hgives
  -- the password is pinned, so that both runs give the record the same one
  obtain rfl := hgives₀.unique hgives hpinned
  obtain ⟨x', hfits⟩ := h.fit.fits row hrow
  obtain rfl : x' = x := Option.some.inj (hfits.subject.symm.trans hx)
  obtain ⟨id, hid, hfind⟩ :=
    h.fit.find?_applied_of_written h.wellFormed hrow hx haction n
  rw [← h.overrides] at hfind
  have howned : t.ownedBy (.ofQuiz (.kind kind) quiz pinned) record = some id := by
    rw [← h.rowOf] at howner
    rw [ownedBy_eq howner hfits.given, hfind]
    rfl
  obtain ⟨-, rfl⟩ := listing_eq_some.mp hlisting
  refine ⟨?_, ?_, ⟨_, List.mem_of_find?_eq_some hfind, ?_⟩, row, hrow, hnumber, ?_⟩
  · rw [h.rowOf, ← herrors]
    exact h.errorless row hrow
  · dsimp only
    rw [howned, hblank, given?_some hid]
    rfl
  · dsimp only
    rw [howned, h.rowOf, hdata]
  · dsimp only
    rw [h.rowOf, hsubject, hx]

/-- The row of a blank record has deleted the override of the subject of the record. -/
lemma find?_of_deleted (h : s.RunsAgain t kind quiz pinned records rows n) {i : Nat}
    {record : List String} (hrecord : records[i]? = some record)
    (haction : s.actionOf (.ofQuiz (.kind kind) quiz pinned) record = .delete)
    (hx : (s.rowOf (.ofQuiz (.kind kind) quiz pinned) record).fields.subjectId = some x) :
    t.overrides.find? (OverrideKey.owns ⟨.given quiz.id, kind, x⟩) = none := by
  obtain ⟨row, hrow, password, -, -, hlisting⟩ :=
    h.lists.exists_row hrecord (by rw [haction]; decide)
  have hdelete : row.action = .delete ∧ row.subjectId = some x := by
    generalize row.number = m at hlisting
    obtain ⟨-, rfl⟩ := listing_eq_some.mp hlisting
    dsimp only
    exact ⟨haction, hx⟩
  rw [h.overrides]
  exact h.fit.find?_applied_of_deleted h.wellFormed hrow hdelete.2 hdelete.1 n

/-- An override that was not there has been written by an insert. -/
lemma exists_insert (h : s.RunsAgain t kind quiz pinned records rows n)
    (hs : given? ((s.overrides.find? (OverrideKey.owns ⟨.given quiz.id, kind, x⟩)).bind
      Override.id) = none)
    (ht : given? ((t.overrides.find? (OverrideKey.owns ⟨.given quiz.id, kind, x⟩)).bind
      Override.id) ≠ none) :
    ∃ row ∈ rows, row.action = .insert ∧ row.subjectId = some x := by
  by_contra hnone
  refine ht ?_
  rw [h.overrides, h.fit.find?_applied_of_not_mem h.wellFormed (fun row hrow hx => ?_), hs]
  obtain ⟨x', hfits⟩ := h.fit.fits row hrow
  obtain rfl : x' = x := Option.some.inj (hfits.subject.symm.trans hx)
  refine hnone ⟨row, hrow, ?_, hx⟩
  -- the row is not blank, and its override was not there
  have haction := hfits.action
  rw [hfits.existing, hs] at haction
  cases hblank : row.cells.isBlank <;> rw [hblank] at haction
  · exact haction
  · exact absurd haction hfits.listed

/-- **A blank record** that is listed in the second run is a clash. -/
lemma clash_of_blank (h : s.RunsAgain t kind quiz pinned records rows n) {i : Nat}
    {record : List String} (hrecord : records[i]? = some record)
    (hblank : (Cells.ofRecord record).isBlank = true)
    (haction : t.actionOf (.ofQuiz (.kind kind) quiz pinned) record ≠ .skip) :
    (t.rowOf (.ofQuiz (.kind kind) quiz pinned) record).errors.isEmpty = true ∧
      ∃ x, (t.rowOf (.ofQuiz (.kind kind) quiz pinned) record).fields.subjectId = some x ∧
        s.Clash (.ofQuiz (.kind kind) quiz pinned) records rows x := by
  have herrors : (t.rowOf (.ofQuiz (.kind kind) quiz pinned) record).errors.isEmpty = true := by
    by_contra herror
    exact haction (onlySubject_of_blank (Bool.eq_false_iff.mpr herror) hblank).2
  have howner := ValidatedRow.owner_of_errorless herrors
  obtain ⟨-, id, hid⟩ := (actionOf_of_blank hblank).resolve_left fun h => haction h.1
  -- the override that is found is that of the subject of the record
  obtain ⟨x, hx, hgiven⟩ : ∃ x,
      (t.rowOf (.ofQuiz (.kind kind) quiz pinned) record).owner = some x ∧ x ≠ "" := by
    have howned := (Option.filter_eq_some_iff.mp hid).1
    unfold ownedBy at howned
    rw [existing?_eq] at howned
    obtain ⟨x, hx, -⟩ := Option.bind_eq_some_iff.mp howned
    obtain ⟨hx, hgiven⟩ := Option.filter_eq_some_iff.mp hx
    exact ⟨x, hx, by simpa using hgiven⟩
  rw [ownedBy_eq hx hgiven] at hid
  have hsubject :
      (s.rowOf (.ofQuiz (.kind kind) quiz pinned) record).fields.subjectId = some x := by
    rw [← h.rowOf, ← howner, hx]
  refine ⟨herrors, x, howner.symm.trans hx, ?_⟩
  rw [h.rowOf] at hx
  rcases actionOf_of_blank (s := s) hblank with ⟨hskip, hnone⟩ | ⟨hdelete, -⟩
  · rw [ownedBy_eq hx hgiven] at hnone
    exact ⟨⟨record, List.mem_of_getElem? hrecord, hblank, hskip, hx⟩,
      h.exists_insert hnone (by rw [hid]; simp)⟩
  · rw [h.find?_of_deleted hrecord hdelete hsubject] at hid
    exact absurd hid (by simp [given?])

/-- **What a row of the second run is**: an update to the data that are there, under the number of a
row of the first run with the same subject, or a deletion that clashes. -/
def Repeats (s t : Site) (st : RunSettings) (records : List (List String)) (rows : List ImportRow)
    (row' : ImportRow) : Prop :=
  (row'.action = .update ∧ (∃ o ∈ t.overrides, row'.draft = ⟨o.id, o.data⟩) ∧
    ∃ row ∈ rows, row.number = row'.number ∧ row.subjectId = row'.subjectId) ∨
  row'.action = .delete ∧ ∃ x, row'.subjectId = some x ∧ s.Clash st records rows x

/-- **The rows of the second run** have no errors, and each is an update or a clash. -/
theorem row_cases (h : s.RunsAgain t kind quiz pinned records rows n)
    (hl : t.Lists (.ofQuiz (.kind kind) quiz pinned) 0 records rows') (hrow' : row' ∈ rows') :
    row'.errors.isEmpty = true ∧
      Repeats s t (.ofQuiz (.kind kind) quiz pinned) records rows row' := by
  obtain ⟨record, password, ⟨hnumber, hrecord⟩, hgives, hlisting⟩ := hl.exists_record hrow'
  obtain ⟨i, hi⟩ : ∃ i, row'.number = i + 1 := ⟨row'.number - 1, by omega⟩
  rw [hi] at hgives hlisting hrecord
  rw [show i + 1 - 0 - 1 = i by omega] at hrecord
  rcases hblank : (Cells.ofRecord record).isBlank with _ | _
  · obtain ⟨herrors, haction, hdraft, row, hrow, hsame, hsubject⟩ :=
      h.update_of_not_blank hrecord hblank hgives hlisting
    exact ⟨herrors, .inl ⟨haction, hdraft, row, hrow, hsame.trans hi.symm, hsubject⟩⟩
  · obtain ⟨hne, hrow⟩ := listing_eq_some.mp hlisting
    obtain ⟨herrors, x, hx, hclash⟩ := h.clash_of_blank hrecord hblank hne
    obtain ⟨hdelete, -⟩ := (actionOf_of_blank hblank).resolve_left fun hskip => hne hskip.1
    rw [← hrow]
    unfold Repeats
    dsimp only
    exact ⟨herrors, .inr ⟨hdelete, x, hx, hclash⟩⟩

/-- **Two rows of the second run about one subject** clash. -/
lemma clash_of_known (h : s.RunsAgain t kind quiz pinned records rows n)
    (hl : t.Lists (.ofQuiz (.kind kind) quiz pinned) 0 records rows') {a b : ImportRow}
    (ha : a ∈ rows') (hb : b ∈ rows') (hne : a.number ≠ b.number) (hax : a.knownSubject = some x)
    (hbx : b.knownSubject = some x) :
    s.Clash (.ofQuiz (.kind kind) quiz pinned) records rows x := by
  have hsubject {row : ImportRow} (hrow : row ∈ rows') (hx : row.knownSubject = some x) :
      row.subjectId = some x := by
    rw [ImportRow.knownSubject_of_errorless (h.row_cases hl hrow).1] at hx
    exact (Option.filter_eq_some_iff.mp hx).1
  have hclash {row : ImportRow} (hrow : row ∈ rows') (hx : row.knownSubject = some x) {y : String}
      (hy : row.subjectId = some y)
      (hclash : s.Clash (.ofQuiz (.kind kind) quiz pinned) records rows y) :
      s.Clash (.ofQuiz (.kind kind) quiz pinned) records rows x := by
    obtain rfl : y = x := Option.some.inj (hy.symm.trans (hsubject hrow hx))
    exact hclash
  rcases (h.row_cases hl ha).2 with ⟨-, -, a₁, ha₁, hanumber, hasubject⟩ | ⟨-, y, hy, hc⟩
  · rcases (h.row_cases hl hb).2 with ⟨-, -, b₁, hb₁, hbnumber, hbsubject⟩ | ⟨-, y, hy, hc⟩
    · -- two updates would be of one row of the first run
      have hsame : a₁.subjectId = b₁.subjectId := by
        rw [hasubject, hbsubject, hsubject ha hax, hsubject hb hbx]
      obtain rfl := h.fit.eq_of_subjectId_eq ha₁ hb₁ hsame
      exact absurd (hanumber.symm.trans hbnumber) hne
    · exact hclash hb hbx hy hc
  · exact hclash ha hax hy hc

/-- **Without a clash** the rows of the second run are about different subjects. -/
lemma nodup_of_no_clash (h : s.RunsAgain t kind quiz pinned records rows n)
    (hl : t.Lists (.ofQuiz (.kind kind) quiz pinned) 0 records rows')
    (hnone : ¬∃ x, s.Clash (.ofQuiz (.kind kind) quiz pinned) records rows x) :
    (rows'.filterMap ImportRow.knownSubject).Nodup := by
  refine List.pairwise_filterMap.mpr (hl.sorted.imp_of_mem fun {a b} ha hb hlt => ?_)
  rintro x hax y hbx rfl
  exact hnone ⟨x, h.clash_of_known hl ha hb (Nat.ne_of_lt hlt) hax hbx⟩

/-- The subject of a row that is not blank is that of its row in the second run. -/
lemma exists_update (h : s.RunsAgain t kind quiz pinned records rows n)
    (hl : t.Lists (.ofQuiz (.kind kind) quiz pinned) 0 records rows') (hrow : row ∈ rows)
    (haction : row.action = .insert) :
    ∃ record, records[row.number - 1]? = some record ∧ (Cells.ofRecord record).isBlank = false ∧
      ∃ row' ∈ rows', row'.number = row.number ∧ row'.subjectId = row.subjectId := by
  obtain ⟨record, password, ⟨hnumber, hrecord⟩, -, hlisting⟩ := h.lists.exists_record hrow
  obtain ⟨i, hi⟩ : ∃ i, row.number = i + 1 := ⟨row.number - 1, by omega⟩
  rw [hi, show i + 1 - 0 - 1 = i by omega] at hrecord
  have hblank : (Cells.ofRecord record).isBlank = false := by
    refine Bool.eq_false_iff.mpr fun hblank => ?_
    obtain ⟨hne, hrow⟩ := listing_eq_some.mp hlisting
    obtain ⟨hdelete, -⟩ := (actionOf_of_blank hblank).resolve_left fun hskip => hne hskip.1
    rw [← hrow] at haction
    exact absurd (hdelete.symm.trans haction) (by decide)
  obtain ⟨row', hrow', password', hnumber', hgives, hlisting'⟩ :=
    hl.exists_row hrecord (actionOf_of_not_blank hblank)
  rw [Nat.zero_add] at hnumber'
  rw [hnumber'] at hgives hlisting'
  obtain ⟨-, -, -, row₁, hrow₁, hnumber₁, hsubject⟩ :=
    h.update_of_not_blank hrecord hblank hgives hlisting'
  obtain rfl := h.lists.eq_of_number hrow₁ hrow (hnumber₁.trans hi.symm)
  exact ⟨record, by rw [hi]; exact hrecord, hblank, row', hrow', hnumber'.trans hi.symm,
    hsubject.symm⟩

/-- **With a clash** two rows of the second run are about one subject. -/
lemma not_nodup_of_clash (h : s.RunsAgain t kind quiz pinned records rows n)
    (hl : t.Lists (.ofQuiz (.kind kind) quiz pinned) 0 records rows')
    (hclash : s.Clash (.ofQuiz (.kind kind) quiz pinned) records rows x) :
    ¬(rows'.filterMap ImportRow.knownSubject).Nodup := by
  obtain ⟨⟨record, hmem, hblank, -, howner⟩, row, hrow, hinsert, hx⟩ := hclash
  obtain ⟨i, hrecord⟩ := List.mem_iff_getElem?.mp hmem
  obtain ⟨x', hfits⟩ := h.fit.fits row hrow
  obtain rfl : x' = x := Option.some.inj (hfits.subject.symm.trans hx)
  rw [← h.rowOf] at howner
  -- the blank record finds the override that has been inserted
  obtain ⟨id, hid, hfind⟩ := h.fit.find?_applied_of_written h.wellFormed hrow hx
    (by rw [hinsert]; decide) n
  rw [← h.overrides] at hfind
  have haction : t.actionOf (.ofQuiz (.kind kind) quiz pinned) record ≠ .skip := by
    unfold actionOf
    rw [hblank, ownedBy_eq howner hfits.given, hfind, Option.bind_some, given?_some hid]
    exact OverrideAction.noConfusion
  obtain ⟨a, ha, password, hanumber, -, halisting⟩ := hl.exists_row hrecord haction
  have hasubject : a.subjectId = some x' := by
    obtain ⟨herrors, -⟩ := h.clash_of_blank hrecord hblank haction
    generalize a.number = m at halisting
    obtain ⟨-, rfl⟩ := listing_eq_some.mp halisting
    dsimp only
    rw [← ValidatedRow.owner_of_errorless herrors, howner]
  obtain ⟨record', hrecord', hblank', b, hb, hbnumber, hbsubject⟩ := h.exists_update hl hrow hinsert
  have hne : a ≠ b := by
    rintro rfl
    rw [show row.number - 1 = i by omega, hrecord] at hrecord'
    rw [Option.some.inj hrecord', hblank'] at hblank
    exact absurd hblank (by decide)
  have hknown {r : ImportRow} (hr : r ∈ rows') (hsubject : r.subjectId = some x') :
      r.knownSubject = some x' := by
    rw [ImportRow.knownSubject_of_errorless (h.row_cases hl hr).1, hsubject,
      given?_some hfits.given]
  exact fun hnodup => hne (eq_of_nodup_filterMap hnodup ha hb (hknown ha hasubject)
    (hknown hb (hbsubject.trans hx)))

/-- **Without a clash nothing changes** by the rows of the second run. -/
theorem applied_eq (h : s.RunsAgain t kind quiz pinned records rows n)
    (hl : t.Lists (.ofQuiz (.kind kind) quiz pinned) 0 records rows')
    (hnone : ¬∃ x, s.Clash (.ofQuiz (.kind kind) quiz pinned) records rows x)
    (hids : (t.overrides.map Override.id).Nodup) (m : Nat) :
    (∀ row' ∈ rows', row'.action = .update) ∧
      applied m (rows'.map ImportRow.change) t.overrides = t.overrides := by
  have hupdate (row' : ImportRow) (hrow' : row' ∈ rows') :
      row'.action = .update ∧ ∃ o ∈ t.overrides, row'.draft = ⟨o.id, o.data⟩ := by
    rcases (h.row_cases hl hrow').2 with ⟨haction, hdraft, -⟩ | ⟨-, x, -, hclash⟩
    · exact ⟨haction, hdraft⟩
    · exact absurd ⟨x, hclash⟩ hnone
  exact ⟨fun row' hrow' => (hupdate row' hrow').1, applied_of_stored hids
    (List.forall_mem_map.mpr fun row' hrow' => (hupdate row' hrow').1)
    (List.forall_mem_map.mpr fun row' hrow' => (hupdate row' hrow').2) m⟩

/-- **Without a clash** the second run can be imported. -/
lemma canImport_of_no_clash (h : s.RunsAgain t kind quiz pinned csv.records rows n)
    (hp : t.Passes csv (.kind kind) quiz pinned run)
    (hnone : ¬∃ x, s.Clash (.ofQuiz (.kind kind) quiz pinned) csv.records rows x) :
    run.canImport = true := by
  obtain ⟨rows', hl, hrows⟩ := hp.listed
  have hmarked : markDuplicates rows' = rows' :=
    markFrom_of_nodup (h.nodup_of_no_clash hl hnone) fun _ _ => rfl
  refine Bool.and_eq_true_iff.mpr ⟨hp.processed, List.all_eq_true.mpr fun row' hrow' => ?_⟩
  rw [hrows, hmarked] at hrow'
  exact (h.row_cases hl hrow').1

/-- **With a clash** the second run cannot be imported, and its errors are those of rows that clash
with an earlier one. -/
lemma canImport_of_clash (h : s.RunsAgain t kind quiz pinned csv.records rows n)
    (hp : t.Passes csv (.kind kind) quiz pinned run)
    (hclash : s.Clash (.ofQuiz (.kind kind) quiz pinned) csv.records rows x) :
    run.canImport = false ∧ ∀ row' ∈ run.rows, row'.errors.isEmpty = false →
      ∃ y first, s.Clash (.ofQuiz (.kind kind) quiz pinned) csv.records rows y ∧
        row'.errors = { subject := some (.duplicate y first) } := by
  obtain ⟨rows', hl, hrows⟩ := hp.listed
  refine ⟨Bool.eq_false_iff.mpr fun hcan => ?_, fun row' hrow' herror => ?_⟩
  · obtain ⟨hl', -, hnodup⟩ := hp.rows_of_canImport hcan
    exact h.not_nodup_of_clash hl' hclash hnodup
  · rw [hrows] at hrow'
    rcases mem_markDuplicates hl.sorted hrow' with hrow' | ⟨b, hb, a, ha, y, hlt, hay, hby, rfl⟩
    · rw [(h.row_cases hl hrow').1] at herror
      exact absurd herror (by decide)
    · refine ⟨y, a.number, h.clash_of_known hl ha hb (Nat.ne_of_lt hlt) hay hby, ?_⟩
      have hempty := (h.row_cases hl hb).1
      unfold ImportRow.withSubjectError
      rw [FieldErrors.eq_of_isEmpty hempty]

end Site.RunsAgain

/-! ### Commits that are made again -/

/-- **The site `t` is as `s` for the commit of a batch**: the quiz, the users, the groups, the
overrides and what is kept under the identifier of the batch are the same. Identifiers may have been
generated in the meantime. -/
structure Site.SameForCommit (s t : Site) (quizId importId : Field String) : Prop where
  quiz : t.quiz? quizId = s.quiz? quizId
  users : t.users = s.users
  groups : t.groups = s.groups
  overrides : t.overrides = s.overrides
  overrideCount : s.overrideCount ≤ t.overrideCount
  batches : (t.batches.filter fun b => importId.holds (some b.id)) =
    s.batches.filter fun b => importId.holds (some b.id)

/-- A site is the same for a commit as itself. -/
lemma Site.SameForCommit.refl (s : Site) (quizId importId : Field String) :
    s.SameForCommit s quizId importId :=
  ⟨rfl, rfl, rfl, rfl, Nat.le_refl _, rfl⟩

/-- The same batch is found. -/
lemma Site.SameForCommit.find?_batch {s t : Site} {quizId importId : Field String}
    (h : s.SameForCommit t quizId importId) {id : String} (hid : issuedId? importId = some id)
    (p : Batch → Bool) :
    (t.batches.find? fun b => b.id == id && p b) = s.batches.find? fun b => b.id == id && p b := by
  obtain ⟨hgiven, -⟩ := Option.filter_eq_some_iff.mp hid
  obtain rfl : importId = .given id := by
    rcases importId with _ | _ | _ | _ <;> simp [Field.toOption] at hgiven
    rw [hgiven]
  have hfind (s : Site) : (s.batches.find? fun b => b.id == id && p b) =
      (s.batches.filter fun b => (Field.given id).holds (some b.id)).find? p := by
    rw [List.find?_filter]
    congr 1
    funext b
    by_cases hb : b.id = id
    · simp [Field.holds, hb]
    · simp [Field.holds, hb, Ne.symm hb]
  rw [hfind t, h.batches, ← hfind s]

/-- Without faults an expired batch is removed and refused. -/
lemma Batches.find_expired {quizId importId : Field String} {s : Site} {batch : Batch} {id : String}
    (hs : s.faults = []) (hid : issuedId? importId = some id)
    (hfound : (s.batches.find? fun b => b.id == id && quizId.holds (some b.quizId)) = some batch)
    (hexpired : isExpired s.options s.clock batch = true) :
    ∃ s', (find quizId importId).Throws s (.importExpired id) s' := by
  obtain ⟨s₁, haccess, hs₁⟩ := (access_looks .batches .findOne).quiet hs
  have hstill : s₁.still = s.still := (access_looks _ _).frames.returns haccess
  have hbatches : s₁.batches = s.batches := congrArg (·.batches) hstill
  have hexpires : isExpired s₁.options s₁.clock = isExpired s.options s.clock :=
    Site.congr_of_mask (fun s => isExpired s.options s.clock) hstill fun _ => rfl
  obtain ⟨s₂, hremove, -⟩ := remove_quiet batch.id hs₁
  refine ⟨s₂, ?_⟩
  unfold find
  simp only [hid]
  refine throws_bind.mpr (.inr ⟨_, s₁, returns_mapError.mpr haccess, ?_⟩)
  refine throws_bind.mpr (.inr ⟨s₁, s₁, returns_get.mpr ⟨rfl, rfl⟩, ?_⟩)
  simp only [hbatches, hfound, hexpires, hexpired, if_true]
  exact throws_bind.mpr (.inr ⟨_, s₂, returns_mapError.mpr hremove, throws_throw.mpr ⟨rfl, rfl⟩⟩)

namespace ImportService

variable {quizId importId : Field String} {origin : RequestOrigin} {s s₁ t : Site} {quiz : Quiz}
  {batch : Batch} {run : ImportRun} {kind : SubjectKind}

/-- Without faults the commit of an expired batch is refused, and no override is written. -/
lemma commit_expired (origin : RequestOrigin) {id : String} (hs : s.faults = [])
    (hquiz : s.quiz? quizId = some quiz) (hid : issuedId? importId = some id)
    (hfound : (s.batches.find? fun b => b.id == id &&
      (Field.given quiz.id).holds (some b.quizId)) = some batch)
    (hexpired : Batches.isExpired s.options s.clock batch = true) :
    ∃ s', (commit quizId importId origin).Throws s (.importExpired id) s' ∧
      s'.overrides = s.overrides := by
  obtain ⟨s₁, hfind, hs₁⟩ := findQuiz_quiet hs hquiz
  have hstill : s₁.still = s.still := (findQuiz_returns hfind).2
  have hbatches : s₁.batches = s.batches := congrArg (·.batches) hstill
  have hexpires : Batches.isExpired s₁.options s₁.clock = Batches.isExpired s.options s.clock :=
    Site.congr_of_mask (fun s => Batches.isExpired s.options s.clock) hstill fun _ => rfl
  rw [← hbatches] at hfound
  rw [← hexpires] at hexpired
  obtain ⟨s₂, hthrows⟩ := Batches.find_expired hs₁ hid hfound hexpired
  have hrevalidate : (revalidate quizId importId).Throws s (.importExpired id) s₂ :=
    throws_bind.mpr (.inr ⟨quiz, s₁, hfind, throws_bind.mpr (.inl hthrows)⟩)
  exact ⟨s₂, throws_bind.mpr (.inl hrevalidate),
    congrArg (·.overrides) ((revalidate_sheds _ _).throws hrevalidate).unbatched⟩

/-- **A commit whose batch could not be removed** has made the changes of its run and left all else
alone. -/
lemma RemovalFails.applied {e : Refusal} {table : List Override}
    (hfails : RemovalFails quizId importId s table)
    (h : (commit quizId importId origin).Throws s e s₁)
    (hids : (s.overrides.map Override.id).Nodup) (hfresh : Fresh s.overrideCount s.overrides) :
    ∃ quiz batch run s₀, (revalidate quizId importId).Returns s (quiz, batch, run) s₀ ∧
      run.canImport = true ∧
      s₁.overrides = applied s.overrideCount (changesOf run) s.overrides ∧
      s₁.overrideCount = s.overrideCount + inserts (changesOf run) ∧ s₁.aside = s.aside := by
  obtain ⟨quiz, batch, run, total, s₀, s₂, hrevalidate, hcan, hcommit, -, hs₁⟩ :=
    hfails.of_throws h
  have hadvanced := (commitChanges_returns_of_revalidate hrevalidate hcan hcommit hids hfresh).2
  exact ⟨quiz, batch, run, s₀, hrevalidate, hcan,
    (congrArg (·.overrides) hs₁).trans hadvanced.overrides,
    (congrArg (·.overrideCount) hs₁).trans hadvanced.count,
    (Site.congr_of_mask Site.aside hs₁ fun _ => rfl).trans hadvanced.aside⟩

/-- **The run of a commit is made again** where its changes have been made. -/
lemma Revalidated.runsAgain (h : Revalidated s quizId importId quiz batch run)
    (hcan : run.canImport = true) (hpinned : batch.Pinned) (hmode : batch.mode = .kind kind)
    (hids : s.HasIds) (hwf : WellFormed s.overrides) {csv : Csv.Table}
    (hcsv : Csv.Table.ofChoice batch.content batch.delimiter = .ok csv) {n : Nat}
    (husers : t.users = s.users) (hgroups : t.groups = s.groups)
    (htable : t.overrides = applied n (changesOf run) s.overrides) :
    s.RunsAgain t kind quiz batch.passwords csv.records run.rows n := by
  obtain ⟨csv', hcsv', hpasses⟩ := h.passes
  obtain rfl : csv' = csv := Except.ok.inj (hcsv'.symm.trans hcsv)
  obtain ⟨hlists, herrors, -⟩ := hpasses.rows_of_canImport hcan
  rw [hmode] at hlists
  refine ⟨hlists, herrors, h.rowsFit hcan hmode hids hwf, hwf, ?_, htable,
    hpinned.password csv' hcsv⟩
  exact Site.rowOf_of_subjects husers hgroups _

/-- A run that cannot be imported has rows with errors. -/
lemma invalidRows_ne_nil (hprocessed : run.processed = true) (hcan : run.canImport = false) :
    invalidRows run ≠ [] := by
  intro hnone
  rw [invalidRows, List.map_eq_nil_iff, List.filter_eq_nil_iff] at hnone
  refine Bool.eq_false_iff.mp hcan (Bool.and_eq_true_iff.mpr ⟨hprocessed, ?_⟩)
  exact List.all_eq_true.mpr fun row hrow => by simpa using hnone row hrow

/-- **What a second commit comes to** at the site `t`, after a first one at `s` has made the changes
of its run: the overrides of `t` stay as they are. -/
structure CommitAgain (s t : Site) (quizId importId : Field String) (origin : RequestOrigin)
    (quiz : Quiz) (batch : Batch) (csv : Csv.Table) (rows : List ImportRow) : Prop where
  /-- A batch that has expired is refused. -/
  expired : Batches.isExpired t.options t.clock batch = true → ∃ id t',
    (commit quizId importId origin).Throws t (.importExpired id) t' ∧
    t'.overrides = t.overrides ∧ (Refusal.importExpired id).thrown =
      .http (.ofMessage .notFound (Refusal.importExpired id).message)
  /-- So is one with rows that clash, which are named. -/
  clash : Batches.isExpired t.options t.clock batch = false →
    (∃ x, s.Clash (.ofQuiz batch.mode quiz batch.passwords) csv.records rows x) →
    ∃ entries t', (commit quizId importId origin).Throws t (.invalidRows batch.mode entries) t' ∧
      t'.overrides = t.overrides ∧
      (∃ body, (Refusal.invalidRows batch.mode entries).thrown = .http ⟨.badRequest, body⟩) ∧
      entries ≠ [] ∧ ∀ entry ∈ entries, ∃ x first,
        s.Clash (.ofQuiz batch.mode quiz batch.passwords) csv.records rows x ∧
        entry.2 = { subject := some (.duplicate x first) }
  /-- Otherwise the commit returns, and has neither inserted nor deleted an override. -/
  committed : Batches.isExpired t.options t.clock batch = false →
    (¬∃ x, s.Clash (.ofQuiz batch.mode quiz batch.passwords) csv.records rows x) →
    ∃ total t', (commit quizId importId origin).Returns t total t' ∧
      t'.overrides = t.overrides ∧ total.inserted = 0 ∧ total.deleted = 0

/-- The second commit, at a site where the batch is found again. -/
lemma commitAgain_of_runsAgain {csv : Csv.Table} {n : Nat}
    (hagain : s.RunsAgain t kind quiz batch.passwords csv.records run.rows n)
    (hmode : batch.mode = .kind kind)
    (hcsv : Csv.Table.ofChoice batch.content batch.delimiter = .ok csv)
    (haccepted : batch.mode.Accepts csv.columns) (hquiz : t.quiz? quizId = some quiz) {id : String}
    (hid : issuedId? importId = some id)
    (hfound : (t.batches.find? fun b => b.id == id &&
      (Field.given quiz.id).holds (some b.quizId)) = some batch)
    (hids : (t.overrides.map Override.id).Nodup) (hfresh : Fresh t.overrideCount t.overrides)
    (hquiet : t.faults = []) (origin : RequestOrigin) :
    CommitAgain s t quizId importId origin quiz batch csv run.rows := by
  -- the run of the second commit, unless the batch has expired
  have hrun (hnew : Batches.isExpired t.options t.clock batch = false) :
      ∃ run' t₁, (revalidate quizId importId).Returns t (quiz, batch, run') t₁ ∧ t₁.faults = [] ∧
        t.Passes csv (.kind kind) quiz batch.passwords run' := by
    obtain ⟨run', t₁, hrevalidate, ht₁⟩ :=
      revalidate_quiet hquiet hquiz ⟨⟨id, hid, hfound⟩, hnew⟩ hcsv haccepted
    obtain ⟨csv', hcsv', hpasses⟩ := (revalidate_returns hrevalidate).1.passes
    obtain rfl : csv' = csv := Except.ok.inj (hcsv'.symm.trans hcsv)
    rw [hmode] at hpasses
    exact ⟨run', t₁, hrevalidate, ht₁, hpasses⟩
  refine ⟨fun hold => ?_, fun hnew hclash => ?_, fun hnew hnone => ?_⟩
  · obtain ⟨t', hthrows, hoverrides⟩ := commit_expired origin hquiet hquiz hid hfound hold
    exact ⟨id, t', hthrows, hoverrides, rfl⟩
  · obtain ⟨run', t₁, hrevalidate, -, hpasses⟩ := hrun hnew
    rw [hmode] at hclash
    obtain ⟨x, hclash⟩ := hclash
    obtain ⟨hcan, herrors⟩ := hagain.canImport_of_clash hpasses hclash
    refine ⟨_, t₁, commit_refused origin hrevalidate hcan,
      (Site.overrides_of_records (revalidate_returns hrevalidate).2).1, ⟨_, rfl⟩,
      invalidRows_ne_nil hpasses.processed hcan, fun entry hentry => ?_⟩
    obtain ⟨row, hrow, rfl⟩ := List.mem_map.mp hentry
    obtain ⟨hrow, herror⟩ := List.mem_filter.mp hrow
    rw [hmode]
    exact herrors row hrow (by simpa using herror)
  · obtain ⟨run', t₁, hrevalidate, ht₁, hpasses⟩ := hrun hnew
    rw [hmode] at hnone
    have hcan := hagain.canImport_of_no_clash hpasses hnone
    have hlists := (hpasses.rows_of_canImport hcan).1
    obtain ⟨hupdates, happlied⟩ := hagain.applied_eq hlists hnone hids t.overrideCount
    obtain ⟨t', hcommit, hoverrides⟩ :=
      commit_quiet_applied origin hrevalidate ht₁ hcan hids hfresh
    refine ⟨_, t', hcommit, hoverrides.trans happlied, ?_⟩
    have hnone (action : OverrideAction) (haction : action ≠ .update) :
        PreviewSummary.countAction action run'.rows = 0 := by
      refine List.countP_eq_zero.mpr fun row hrow => ?_
      rw [hupdates row hrow]
      simpa using Ne.symm haction
    rw [changesOf, CommitSummary.countAll_changes, hnone .insert (by decide),
      hnone .delete (by decide)]
    exact ⟨rfl, rfl⟩

/-- **A commit may safely be made again** after the removal of its batch has failed. Where the quiz,
the users, the groups, the overrides and the batch are as the first commit has left them, and
storage does not fail again, the second commit leaves the table as it is: all changes of the first
run stay, and none is made twice. It returns without inserts and deletions, or it is refused, as the
batch has expired or as a blank record clashes with the row that has inserted its subject.

**Proof sketch.** Every record that is not blank has a row in the first run, which has written an
override for its subject. With the passwords of the batch, the second run lists an update of that
override to the data that it has. A blank record has deleted the override of its subject, so that it
is skipped by the second run, or it was skipped by the first run and has found none. Then it is
about an override in the second run only if a row of the first run has inserted that. -/
theorem commit_again {e : Refusal} {table : List Override} (hs : s.Reachable) (hids : s.HasIds)
    (hwf : WellFormed s.overrides) (hfresh : Fresh s.overrideCount s.overrides)
    (h : (commit quizId importId origin).Throws s e s₁)
    (hfails : RemovalFails quizId importId s table)
    (hsame : s₁.SameForCommit t quizId importId) (hquiet : t.faults = [])
    (origin' : RequestOrigin) :
    ∃ quiz batch run csv s₀,
      (revalidate quizId importId).Returns s (quiz, batch, run) s₀ ∧ run.canImport = true ∧
      Csv.Table.ofChoice batch.content batch.delimiter = .ok csv ∧
      s₁.overrides = applied s.overrideCount (changesOf run) s.overrides ∧
      CommitAgain s t quizId importId origin' quiz batch csv run.rows := by
  obtain ⟨quiz, batch, run, s₀, hrevalidate, hcan, htable, hcount, haside⟩ :=
    hfails.applied h hwf.ids_nodup hfresh
  have hrevalidated := (revalidate_returns hrevalidate).1
  obtain ⟨id, hid, hfound⟩ := hrevalidated.batch_found.found
  have hpinned := hs.pinned batch (List.mem_of_find?_eq_some hfound)
  obtain ⟨kind, hmode⟩ := hpinned.mode
  obtain ⟨csv, hcsv, hpasses⟩ := hrevalidated.passes
  -- what the first commit has left alone, the second one finds
  have husers : t.users = s.users := hsame.users.trans (congrArg (·.users) haside)
  have hgroups : t.groups = s.groups := hsame.groups.trans (congrArg (·.groups) haside)
  have hquiz : t.quiz? quizId = some quiz := (hsame.quiz.trans
    (Site.congr_of_mask (fun s => s.quiz? quizId) haside fun _ => rfl)).trans
      hrevalidated.quiz_found
  have hbatches : s₁.batches = s.batches := congrArg (·.batches) haside
  rw [← hbatches, ← hsame.find?_batch hid fun b => (Field.given quiz.id).holds (some b.quizId)]
    at hfound
  have hoverrides := hsame.overrides.trans htable
  have hagain := hrevalidated.runsAgain hcan hpinned hmode hids hwf hcsv husers hgroups hoverrides
  refine ⟨quiz, batch, run, csv, s₀, hrevalidate, hcan, hcsv, htable, ?_⟩
  refine commitAgain_of_runsAgain hagain hmode hcsv hpasses.accepted hquiz hid hfound ?_ ?_ hquiet
    origin'
  · rw [hoverrides]
    exact nodup_ids_applied _ hfresh hwf.ids_nodup
  · rw [hoverrides]
    exact hfresh.applied.mono (hcount ▸ hsame.overrideCount)

/-- **The commit of the small upload is made again** after its batch could not be removed: it
returns, and the table stays as it is. -/
theorem commit_again_lateFault : ∃ e s₁ table,
    (commit smallQuiz firstBatch ⟨none, none⟩).Throws lateFaultSite e s₁ ∧
    RemovalFails smallQuiz firstBatch lateFaultSite table ∧
    s₁.overrides ≠ lateFaultSite.overrides ∧ s₁.faults = [] ∧
    (runOn (commit smallQuiz firstBatch ⟨none, none⟩).run s₁).1.isOk = true ∧
    ∃ quiz batch run csv s₀,
      (revalidate smallQuiz firstBatch).Returns lateFaultSite (quiz, batch, run) s₀ ∧
      run.canImport = true ∧ Csv.Table.ofChoice batch.content batch.delimiter = .ok csv ∧
      s₁.overrides = applied lateFaultSite.overrideCount (changesOf run) lateFaultSite.overrides ∧
      CommitAgain lateFaultSite s₁ smallQuiz firstBatch ⟨none, none⟩ quiz batch csv run.rows := by
  obtain ⟨hrows, e, s₁, h, hwritten⟩ := lateFaultSite_throws
  have hfails := (overrides_eq_or_removalFails hrows h).resolve_left hwritten
  have hsite : (lateFaultSite.users = smallSite.users ∧ lateFaultSite.groups = [] ∧
      lateFaultSite.overrides = smallSite.overrides ∧ lateFaultSite.overrideCount = 0) ∧
      (runOn (commit smallQuiz firstBatch ⟨none, none⟩).run lateFaultSite).2.faults = [] ∧
      (runOn (commit smallQuiz firstBatch ⟨none, none⟩).run
        (runOn (commit smallQuiz firstBatch ⟨none, none⟩).run lateFaultSite).2).1.isOk = true := by
    decide +kernel
  obtain ⟨⟨husers, hgroups, hoverrides, hcount⟩, hquiet, hreturns⟩ := hsite
  rw [show runOn (commit smallQuiz firstBatch ⟨none, none⟩).run lateFaultSite = _ from h]
    at hquiet hreturns
  have hids : lateFaultSite.HasIds := by
    unfold Site.HasIds
    rw [husers, hgroups]
    exact smallSite_hasIds
  have hwf : WellFormed lateFaultSite.overrides := by
    rw [hoverrides]
    exact smallSite_wellFormed
  have hfresh : Fresh lateFaultSite.overrideCount lateFaultSite.overrides := by
    rw [hoverrides, hcount]
    exact smallSite_fresh
  exact ⟨e, s₁, _, h, hfails, hwritten, hquiet, hreturns,
    commit_again lateFaultSite_reachable hids hwf hfresh h hfails (.refl s₁ _ _) hquiet
      ⟨none, none⟩⟩

end ImportService

end QuizOverrides
