import QuizOverrides.Proofs.CertainCommits
import QuizOverrides.Proofs.DelimitedText
import QuizOverrides.Proofs.Scans

set_option autoImplicit false

/-!
# What becomes of records

Every record of an accepted file is listed, unless it asks for nothing and there is no override that
it could be about. What becomes of a listed record is a matter of these two questions alone: whether
it asks for anything, and which override is that of its subject.

## Main definitions

* `QuizOverrides.Cells.AsksNothing` — no cell asks for a setting.
* `QuizOverrides.Site.resolved?` — the subject that cells are known to be about.
* `QuizOverrides.Site.standing?` — the override of that subject.
* `QuizOverrides.Site.Classified`, `QuizOverrides.Site.Classifies` — what has to become of cells,
  and what the rows of a file have to be.

## Main results

* `QuizOverrides.Csv.Table.length_of_ofChoice` — all rows of a table are equally wide.
* `QuizOverrides.Site.Lists.map_numbered` — which records are listed, and in what order.
* `QuizOverrides.ImportRun.process_classifies` — the rows of an accepted file.
-/

namespace QuizOverrides

open QuizOverrides.Action

/-! ### Tables -/

namespace Csv.Table

/-- A row that is not too wide is filled to the width. -/
lemma length_fill {w : Nat} {row : List String} (h : row.length ≤ w) : (fill w row).length = w := by
  simp [fill]
  omega

/-- The rows of a table are as wide as the widest and have content. -/
lemma mem_filled {rows : List (List String)} {row : List String}
    (h : row ∈ (rows.map (fill (widest rows))).filter hasContent) :
    row.length = widest rows ∧ hasContent row = true := by
  obtain ⟨hmem, hcontent⟩ := List.mem_filter.mp h
  obtain ⟨raw, hraw, rfl⟩ := List.mem_map.mp hmem
  exact ⟨length_fill (length_le_widest hraw), hcontent⟩

/-- The records of a table of rows are as wide as its header. -/
lemma length_of_ofGrid {rows : List (List String)} {record : List String}
    (h : record ∈ (ofGrid rows).records) : record.length = (ofGrid rows).columns.length := by
  have hwide (row : List String) (hrow : row ∈ (rows.map (fill (widest rows))).filter hasContent) :
      row.length = widest rows := (mem_filled hrow).1
  unfold ofGrid at h ⊢
  rcases hrows : (rows.map (fill (widest rows))).filter hasContent with _ | ⟨columns, records⟩ <;>
    rw [hrows] at h hwide
  · simp [empty] at h
  · rw [hwide record (List.mem_cons_of_mem _ h), hwide columns List.mem_cons_self]

/-- The same, for the table that is read from a text. -/
lemma length_of_read {content : String} {asked : Option Char} {record : List String}
    (h : record ∈ (read content asked).records) :
    record.length = (read content asked).columns.length := by
  unfold read at h ⊢
  dsimp only at h ⊢
  split_ifs at h ⊢
  · simp [empty] at h
  · exact length_of_ofGrid h

/-- **All rows of the table of a text** are equally wide, under any choice of a delimiter. -/
theorem length_of_ofChoice {content : String} {choice : DelimiterChoice} {table : Table}
    (htable : ofChoice content choice = .ok table) {record : List String}
    (h : record ∈ table.records) : record.length = table.columns.length := by
  unfold ofChoice at htable
  split at htable
  · obtain rfl := Except.ok.inj htable
    exact length_of_read h
  · obtain rfl := Except.ok.inj htable
    exact length_of_read h
  · split_ifs at htable
    obtain rfl := Except.ok.inj htable
    exact length_of_read h
  · split_ifs at htable
    obtain rfl := Except.ok.inj htable
    simp [empty] at h

end Csv.Table

/-- Nine columns are named. -/
lemma length_header (kind : SubjectKind) : (header kind).length = 9 := by cases kind <;> rfl

/-- An accepted header has nine columns, under any mode. -/
lemma length_of_checkHeader {mode : Mode} {columns : List String}
    (h : checkHeader mode columns = none) : columns.length = 9 := by
  unfold checkHeader at h
  split_ifs at h with hnone hexpected
  rw [hexpected] at hnone ⊢
  unfold Mode.header at hnone ⊢
  rcases hkind : mode.headerKind? with _ | kind
  · rw [hkind] at hnone
    exact absurd rfl hnone
  · exact length_header kind

/-- The cells of a record of a file with an accepted header are that record again. -/
lemma Cells.toRecord_of_accepts {mode : Mode} {content : String}
    {choice : Csv.DelimiterChoice} {table : Csv.Table}
    (htable : Csv.Table.ofChoice content choice = .ok table)
    (h : mode.Accepts table.columns) {record : List String}
    (hrecord : record ∈ table.records) : (Cells.ofRecord record).toRecord = record := by
  apply Cells.toRecord_ofRecord
  rw [Csv.Table.length_of_ofChoice htable hrecord, length_of_checkHeader h.2]

/-! ### What a record asks for -/

/-- **Cells ask for nothing**: those of the settings are empty, but for the last, which may say
no. -/
def Cells.AsksNothing (c : Cells) : Prop :=
  c.timeOpen = "" ∧ c.timeClose = "" ∧ c.timeLimit = "" ∧ c.attempts = "" ∧ c.password = "" ∧
    (c.generate = "" ∨ c.generate = "0")

/-- Whether the cells ask for nothing can be decided. -/
instance (c : Cells) : Decidable c.AsksNothing := by
  unfold Cells.AsksNothing
  infer_instance

/-- A row is blank if its cells ask for nothing. -/
lemma Cells.isBlank_iff {c : Cells} : c.isBlank = true ↔ c.AsksNothing := by
  simp [isBlank, AsksNothing, generateNo, and_assoc]

/-! ### The override that a record is about -/

namespace RunSettings

variable {kind other : SubjectKind} {quiz : Quiz} {pinned : RowPasswords} (row : ValidatedRow)
  (password : Option String)

/-- The override of a row is to be written for the subject of the row. -/
lemma draftData_subject : ((RunSettings.ofQuiz (.kind kind) quiz pinned).draftData row
    password).subject kind = row.fields.subjectId := by
  cases kind <;> rfl

/-- It is written for no subject of another kind. -/
lemma draftData_other (hother : other ≠ kind) : ((RunSettings.ofQuiz (.kind kind) quiz
    pinned).draftData row password).subject other = none := by
  cases kind <;> cases other <;> first | rfl | exact absurd rfl hother

end RunSettings

namespace Site

/-- **The subject that cells are known to be about**: the one that they name, if nothing is wrong
with it. -/
def resolved? (s : Site) (kind : SubjectKind) (courseId : Field String) (c : Cells) :
    Option String :=
  if (s.subjectReading kind courseId c).error.isSome then none
  else (s.subjectReading kind courseId c).id

/-- **The override that cells are about**: the first of the quiz for the subject. -/
def standing? (s : Site) (kind : SubjectKind) (quiz : Quiz) (c : Cells) : Option Override :=
  (s.resolved? kind (.given quiz.courseId) c).bind fun x =>
    s.overrides.find? (OverrideKey.owns ⟨.given quiz.id, kind, x⟩)

variable {s : Site} {kind : SubjectKind} {quiz : Quiz} {pinned : RowPasswords}

/-- A subject that cells are known to be about has an identifier. -/
lemma HasIds.ne_empty (hids : s.HasIds) {courseId : Field String} {c : Cells} {x : String}
    (h : s.resolved? kind courseId c = some x) : x ≠ "" := by
  unfold resolved? at h
  split_ifs at h with herror
  rw [Bool.not_eq_true, Option.isSome_eq_false_iff, Option.isNone_iff_eq_none] at herror
  obtain ⟨y, hy, hne⟩ := hids.subjectReading herror
  rw [hy] at h
  exact Option.some.inj h ▸ hne

/-- The row of a record is about the subject that its cells are known to be about. -/
lemma owner_rowOf (st : RunSettings) (record : List String) :
    (s.rowOf st record).owner =
      s.resolved? st.mode.lookupKind st.quiz.courseId (.ofRecord record) := by
  unfold ValidatedRow.owner resolved?
  rw [rowOf_subjectId, rowOf_subjectError]

/-- The override that a record is about is the one that its cells are about. -/
lemma HasIds.ownedBy_eq (hids : s.HasIds) (record : List String) :
    s.ownedBy (.ofQuiz (.kind kind) quiz pinned) record =
      (s.standing? kind quiz (.ofRecord record)).bind Override.id := by
  unfold standing?
  rcases hresolved : s.resolved? kind (.given quiz.courseId) (.ofRecord record) with _ | x
  · unfold ownedBy
    rw [owner_rowOf]
    change s.existing? _ _ (s.resolved? kind (.given quiz.courseId) (.ofRecord record)) = _
    rw [hresolved]
    rfl
  · refine Site.ownedBy_eq ?_ (hids.ne_empty hresolved)
    rw [owner_rowOf]
    exact hresolved

/-- The identifier of an override that there is counts as one. -/
lemma given?_standing (hgiven : ∀ o ∈ s.overrides, ∃ id, o.id = some id ∧ id ≠ "") (c : Cells) :
    (given? ((s.standing? kind quiz c).bind Override.id)).isSome =
      (s.standing? kind quiz c).isSome := by
  rcases hstanding : s.standing? kind quiz c with _ | o
  · rfl
  · obtain ⟨x, -, hfind⟩ := Option.bind_eq_some_iff.mp hstanding
    obtain ⟨id, hid, hne⟩ := hgiven o (List.mem_of_find?_eq_some hfind)
    rw [Option.bind_some, hid, given?_some hne]
    rfl

/-! ### Rows -/

/-- **What has to become of cells.** The override that they are about is deleted or updated, or one
is inserted; the override to be written is that one, of the quiz and of the subject that the cells
name. -/
structure Classified (s : Site) (kind : SubjectKind) (quiz : Quiz) (c : Cells)
    (action : OverrideAction) (draft : OverrideDraft) : Prop where
  listed : action ≠ .skip
  delete_iff : action = .delete ↔ c.AsksNothing ∧ s.standing? kind quiz c ≠ none
  update_iff : action = .update ↔ ¬c.AsksNothing ∧ s.standing? kind quiz c ≠ none
  insert_iff : action = .insert ↔ ¬c.AsksNothing ∧ s.standing? kind quiz c = none
  replaced : action = .delete ∨ action = .update →
    ∃ o id, s.standing? kind quiz c = some o ∧ o.id = some id ∧ draft.id = some id
  inserted : action = .insert → draft.id = none
  quizId : draft.data.quizId = .given quiz.id
  subject : draft.data.subject kind = (s.subjectReading kind (.given quiz.courseId) c).id
  others : ∀ other, other ≠ kind → draft.data.subject other = none

/-- A record is passed over if it asks for nothing and there is no override that it is about. -/
def passesOver (s : Site) (kind : SubjectKind) (quiz : Quiz) (record : List String) : Bool :=
  decide (Cells.ofRecord record).AsksNothing && (s.standing? kind quiz (.ofRecord record)).isNone

/-- **What the rows of a file have to be**: those of its records that are not passed over, in order,
each with the number and the cells of its record, and each of them classified. -/
structure Classifies (s : Site) (kind : SubjectKind) (quiz : Quiz) (records : List (List String))
    (rows : List ImportRow) : Prop where
  numbered : rows.map (fun row => (row.cells.toRecord, row.number)) =
    (records.zipIdx 1).filter fun (record, _) => !s.passesOver kind quiz record
  sorted : rows.Pairwise fun row row' => row.number < row'.number
  classified : ∀ row ∈ rows, s.Classified kind quiz row.cells row.action row.draft

/-- What becomes of a record. -/
lemma HasIds.actionOf_eq (hids : s.HasIds)
    (hgiven : ∀ o ∈ s.overrides, ∃ id, o.id = some id ∧ id ≠ "") (record : List String) :
    s.actionOf (.ofQuiz (.kind kind) quiz pinned) record =
      .decide (decide (Cells.ofRecord record).AsksNothing)
        (s.standing? kind quiz (.ofRecord record)).isSome := by
  have hblank : (Cells.ofRecord record).isBlank = decide (Cells.ofRecord record).AsksNothing := by
    rw [Bool.eq_iff_iff, Cells.isBlank_iff, decide_eq_true_iff]
  unfold actionOf
  rw [hblank, hids.ownedBy_eq, given?_standing hgiven]

/-- A record is skipped if it is to be passed over. -/
lemma HasIds.actionOf_eq_skip (hids : s.HasIds)
    (hgiven : ∀ o ∈ s.overrides, ∃ id, o.id = some id ∧ id ≠ "") (record : List String) :
    s.actionOf (.ofQuiz (.kind kind) quiz pinned) record = .skip ↔
      s.passesOver kind quiz record = true := by
  rw [hids.actionOf_eq hgiven]
  unfold passesOver
  cases decide (Cells.ofRecord record).AsksNothing <;>
    cases s.standing? kind quiz (.ofRecord record) <;> simp [OverrideAction.decide]

variable {number : Nat} {records : List (List String)} {rows : List ImportRow}

/-- **Which records are listed**: those that are not passed over, in order and with their numbers.

**Proof sketch.** By induction on the records. The first is listed under the next number, or it is
passed over and the number is taken all the same. -/
theorem Lists.map_numbered (hids : s.HasIds)
    (hgiven : ∀ o ∈ s.overrides, ∃ id, o.id = some id ∧ id ≠ "")
    (hcells : ∀ record ∈ records, (Cells.ofRecord record).toRecord = record)
    (hl : s.Lists (.ofQuiz (.kind kind) quiz pinned) number records rows) :
    rows.map (fun row => (row.cells.toRecord, row.number)) =
      (records.zipIdx (number + 1)).filter fun (record, _) => !s.passesOver kind quiz record := by
  induction hl with
  | nil => rfl
  | @cons n record rest rows password _ _ ih =>
    have hskip : s.actionOf (.ofQuiz (.kind kind) quiz pinned) record = .skip ↔ _ :=
      hids.actionOf_eq_skip hgiven record
    rw [List.map_append, ih fun r hr => hcells r (List.mem_cons_of_mem _ hr), List.zipIdx_cons,
      List.filter_cons]
    rcases hlisting : s.listing (.ofQuiz (.kind kind) quiz pinned) (n + 1) record password
      with _ | row
    · have hpassed : s.passesOver kind quiz record = true := by
        refine hskip.mp (by_contra fun hne => ?_)
        obtain ⟨row, hrow⟩ := exists_listing hne (n + 1) password
        rw [hlisting] at hrow
        cases hrow
      simp [hpassed]
    · obtain ⟨hne, rfl⟩ := listing_eq_some.mp hlisting
      have hlisted : s.passesOver kind quiz record = false := by
        rw [← Bool.not_eq_true, ← hskip]
        exact hne
      simp [hlisted, hcells record List.mem_cons_self]

/-- What the action of a record is, by what it asks for and the override that it is about. -/
lemma decide_action_iff (c : Cells) (o : Option Override) :
    (OverrideAction.decide (decide c.AsksNothing) o.isSome = .delete ↔ c.AsksNothing ∧ o ≠ none) ∧
    (OverrideAction.decide (decide c.AsksNothing) o.isSome = .update ↔ ¬c.AsksNothing ∧ o ≠ none) ∧
    (OverrideAction.decide (decide c.AsksNothing) o.isSome = .insert ↔
      ¬c.AsksNothing ∧ o = none) := by
  by_cases h : c.AsksNothing <;> cases o <;> simp [h, OverrideAction.decide]

/-- **A listed row is classified**, whatever errors it has. -/
lemma Lists.classified (hids : s.HasIds)
    (hgiven : ∀ o ∈ s.overrides, ∃ id, o.id = some id ∧ id ≠ "")
    (hl : s.Lists (.ofQuiz (.kind kind) quiz pinned) number records rows) {row : ImportRow}
    (hrow : row ∈ rows) : s.Classified kind quiz row.cells row.action row.draft := by
  obtain ⟨record, password, -, -, hlisting⟩ := hl.exists_record hrow
  generalize row.number = n at hlisting
  obtain ⟨hne, rfl⟩ := listing_eq_some.mp hlisting
  have haction : OverrideAction.decide (Cells.ofRecord record).isBlank
      (given? (s.ownedBy (.ofQuiz (.kind kind) quiz pinned) record)).isSome = _ :=
    hids.actionOf_eq hgiven record
  have howned : s.ownedBy (.ofQuiz (.kind kind) quiz pinned) record = _ := hids.ownedBy_eq record
  -- what is done with the row is decided by its cells and by the override that is there
  obtain ⟨hdelete, hupdate, hinsert⟩ :=
    decide_action_iff (.ofRecord record) (s.standing? kind quiz (.ofRecord record))
  rw [← haction] at hdelete hupdate hinsert
  constructor
  case listed => exact hne
  case delete_iff => exact hdelete
  case update_iff => exact hupdate
  case insert_iff => exact hinsert
  case replaced =>
    intro hreplaces
    have hstanding : s.standing? kind quiz (.ofRecord record) ≠ none :=
      hreplaces.elim (fun h => (hdelete.mp h).2) fun h => (hupdate.mp h).2
    obtain ⟨o, ho⟩ := Option.ne_none_iff_exists'.mp hstanding
    obtain ⟨x, -, hfind⟩ := Option.bind_eq_some_iff.mp ho
    obtain ⟨id, hid, -⟩ := hgiven o (List.mem_of_find?_eq_some hfind)
    refine ⟨o, id, ho, hid, ?_⟩
    dsimp only
    rw [howned, ho, Option.bind_some, hid]
  case inserted =>
    intro hinserts
    dsimp only
    rw [howned, (hinsert.mp hinserts).2]
    rfl
  case quizId =>
    dsimp only
    rw [RunSettings.draftData_quizId]
    rfl
  case subject =>
    dsimp only
    rw [RunSettings.draftData_subject]
    exact s.rowOf_subjectId _ record
  case others =>
    intro other hother
    exact RunSettings.draftData_other _ _ hother

/-- **The rows of a run are classified**, those that are marked as duplicates like all others. -/
theorem Passes.classifies (hids : s.HasIds)
    (hgiven : ∀ o ∈ s.overrides, ∃ id, o.id = some id ∧ id ≠ "") {table : Csv.Table}
    (hcells : ∀ record ∈ table.records, (Cells.ofRecord record).toRecord = record)
    {run : ImportRun} (h : s.Passes table (.kind kind) quiz pinned run) :
    s.Classifies kind quiz table.records run.rows := by
  obtain ⟨rows, hlists, hrows⟩ := h.listed
  have hmarked {β : Type} (f : ImportRow → β) (hf : ∀ row e, f (row.withSubjectError e) = f row) :
      run.rows.map f = rows.map f := by
    rw [hrows, markDuplicates, markFrom_map f hf]
  constructor
  case numbered =>
    rw [hmarked _ fun _ _ => rfl]
    exact hlists.map_numbered hids hgiven hcells
  case sorted => exact h.sorted
  case classified =>
    intro row hrow
    have hmem : (row.cells, row.action, row.draft) ∈
        rows.map fun row => (row.cells, row.action, row.draft) := by
      rw [← hmarked _ fun _ _ => rfl]
      exact List.mem_map_of_mem hrow
    obtain ⟨row', hrow', heq⟩ := List.mem_map.mp hmem
    simp only [Prod.mk.injEq] at heq
    obtain ⟨hcells, haction, hdraft⟩ := heq
    rw [← hcells, ← haction, ← hdraft]
    exact hlists.classified hids hgiven hrow'

end Site

namespace ImportRun

/-- **Rows are classified completely and in order.** At a site where users, groups and overrides
have identifiers and storage answers the look-ups of the records, a file with an accepted header is
processed. Its rows are those of the records, in order, under the numbers of the records and with
their cells, but for the records that ask for nothing where there is no override of their subject.
What becomes of a row is decided by whether its cells ask for anything and by the first override in
the table of the quiz and the subject; a subject that is in error has none. Neither errors of the
other cells nor other rows have a part in that.

**Proof sketch.** The scan lists a row for each record that is not skipped, and an induction over
the records gives the numbers. The look-up of the override is that of the subject without an error,
which has an identifier. Marking duplicates changes errors alone. -/
theorem process_classifies {s : Site} {kind : SubjectKind} {quiz : Quiz} {pinned : RowPasswords}
    {content : String} {choice : Csv.DelimiterChoice} {table : Csv.Table} (hids : s.HasIds)
    (hgiven : ∀ o ∈ s.overrides, ∃ id, o.id = some id ∧ id ≠ "")
    (hanswers : s.Answers (.ofQuiz (.kind kind) quiz pinned) table.records)
    (htable : Csv.Table.ofChoice content choice = .ok table)
    (haccepted : (Mode.kind kind).Accepts table.columns) :
    ∃ run' s', runOn ({ settings := .ofQuiz (.kind kind) quiz pinned, table := table } :
        ImportRun).processIn s = ((.ok (.ok true), run'), s') ∧
      s.Classifies kind quiz table.records run'.rows := by
  obtain ⟨run', s', hprocess⟩ := process_of_answers
    { settings := .ofQuiz (.kind kind) quiz pinned, table := table } haccepted.2 hanswers
  have hprocessIn := runOn_processIn haccepted.1 hprocess
  exact ⟨run', s', hprocessIn, (passes_of_processIn hprocessIn).classifies hids hgiven
    fun record hrecord => Cells.toRecord_of_accepts htable haccepted hrecord⟩

/-- A file with three records. -/
def threeLines : String := ",".intercalate (header .user) ++ "\n,,ann,,,60\n,,bob\n,,bob,,,,3"

/-- The quiz of the small site, with its course. -/
def smallSiteQuiz : Quiz :=
  ⟨"00000000-0000-4000-8000-0000000000a1", "c-1", some "Quiz", none⟩

/-- The small site, where the next override to be saved is lost. -/
def lossySite : Site :=
  { smallSite with faults := [⟨.overrides, .save, 1, .error "connection lost"⟩] }

/-- The three records at this site: the override of the first user is updated, and the second user,
who has none, is first passed over and then given one. The fault that waits for a write does not
stop the run. -/
theorem process_classifies_threeLines : lossySite.HasIds ∧
    (∀ o ∈ lossySite.overrides, ∃ id, o.id = some id ∧ id ≠ "") ∧
    ∃ table, Csv.Table.ofChoice threeLines (.named .comma) = .ok table ∧
      (Mode.kind .user).Accepts table.columns ∧
      lossySite.Answers (.ofQuiz (.kind .user) smallSiteQuiz []) table.records ∧
      ∃ run' s', runOn ({ settings := .ofQuiz (.kind .user) smallSiteQuiz [], table := table } :
          ImportRun).processIn lossySite = ((.ok (.ok true), run'), s') ∧
        lossySite.Classifies .user smallSiteQuiz table.records run'.rows := by
  have htable : Csv.Table.ofChoice threeLines (.named .comma) =
      .ok ⟨header .user, [["", "", "ann", "", "", "60", "", "", ""],
        ["", "", "bob", "", "", "", "", "", ""], ["", "", "bob", "", "", "", "3", "", ""]]⟩ := by
    decide +kernel
  have haccepted : (Mode.kind .user).Accepts (header .user) := ⟨Mode.headerFault?_kind _ _, rfl⟩
  have hanswers : lossySite.Answers (.ofQuiz (.kind .user) smallSiteQuiz [])
      [["", "", "ann", "", "", "60", "", "", ""], ["", "", "bob", "", "", "", "", "", ""],
        ["", "", "bob", "", "", "", "3", "", ""]] := by
    unfold Site.Answers
    decide +kernel
  exact ⟨smallSite_hasIds, smallSite_wellFormed.id_given, _, htable, haccepted, hanswers,
    process_classifies smallSite_hasIds smallSite_wellFormed.id_given hanswers htable haccepted⟩

end ImportRun

end QuizOverrides
