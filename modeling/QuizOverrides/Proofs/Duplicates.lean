import QuizOverrides.Proofs.Classification
import QuizOverrides.Proofs.Messages

set_option autoImplicit false

/-!
# Rows about the same subject

Rows may name a subject by its identifier, by its number or by its name. A row is told to be a
duplicate if and only if an earlier listed row is about the same subject, in whatever way the two
name it; it is told the first of these rows. Records that are not listed and rows whose subject is
in error have no part in this.

## Main definitions

* `QuizOverrides.Site.subjectOf` — the subject that a row is known to be about.
* `QuizOverrides.Site.TellsDuplicates` — what the rows of a file have to tell.

## Main results

* `QuizOverrides.Site.Lists.knownSubject_eq` — rows are marked by the subjects that the tables name.
* `QuizOverrides.ImportRun.process_tells_duplicates` — the rows of an accepted file.
-/

namespace QuizOverrides

open QuizOverrides.Action

/-! ### First rows -/

/-- Which row is the first about a subject is seen by the numbers and the subjects of the rows. -/
lemma firstAbout_iff {about : ImportRow → Option String} {rows : List ImportRow} {x : String}
    {first : Nat} :
    FirstAbout about rows x first ↔
      (first, some x) ∈ rows.map (fun row => (row.number, about row)) ∧
        ∀ p ∈ rows.map (fun row => (row.number, about row)), p.2 = some x → first ≤ p.1 := by
  rw [List.forall_mem_map]
  constructor
  · rintro ⟨⟨row, hrow, rfl, habout⟩, hleast⟩
    exact ⟨List.mem_map.mpr ⟨row, hrow, by rw [habout]⟩, hleast⟩
  · rintro ⟨hmem, hleast⟩
    obtain ⟨row, hrow, heq⟩ := List.mem_map.mp hmem
    obtain ⟨hnumber, habout⟩ := Prod.mk.inj heq
    exact ⟨⟨row, hrow, hnumber, habout⟩, hleast⟩

/-- There is one first row about a subject. -/
lemma FirstAbout.unique {about : ImportRow → Option String} {rows : List ImportRow} {x : String}
    {first first' : Nat} (h : FirstAbout about rows x first) (h' : FirstAbout about rows x first') :
    first = first' := by
  obtain ⟨row, hrow, rfl, habout⟩ := h.listed
  obtain ⟨row', hrow', rfl, habout'⟩ := h'.listed
  exact Nat.le_antisymm (h.least row' hrow' habout') (h'.least row hrow habout)

/-! ### Subjects of rows -/

/-- **The subject that a row is known to be about**: the one that its cells name, if nothing was
wrong with it when the row was validated. -/
def Site.subjectOf (s : Site) (kind : SubjectKind) (quiz : Quiz) (row : ImportRow) :
    Option String :=
  s.resolved? kind (.given quiz.courseId) row.cells

/-- Looking up a subject finds no duplicates. -/
lemma Site.subjectReading_ne_duplicate (s : Site) (kind : SubjectKind) (courseId : Field String)
    (c : Cells) (x : String) (first : Nat) :
    (s.subjectReading kind courseId c).error ≠ some (.duplicate x first) := by
  unfold subjectReading namedSubject
  split_ifs
  · cases s.subject? kind courseId (Text.trim c.subjectId) <;> simp [SubjectReading.ofId]
  · cases s.foundSubjects kind courseId ⟨.given (Text.trim c.subjectIdNumber), .absent⟩ <;>
      simp [SubjectReading.ofLookup]
  · cases s.foundSubjects kind courseId ⟨.absent, .given (Text.trim c.subjectName)⟩ <;>
      simp [SubjectReading.ofLookup]
  · simp

/-- **What the rows of a file have to tell** about their subjects. -/
structure Site.TellsDuplicates (s : Site) (kind : SubjectKind) (quiz : Quiz)
    (rows : List ImportRow) : Prop where
  /-- A row about a known subject is told the first row about it if and only if that is earlier. -/
  told : ∀ row ∈ rows, ∀ x, s.subjectOf kind quiz row = some x → ∀ first : Nat,
    (kind.idColumn,
        s!"Duplicate {kind.name} '{x}', already listed on row {Text.intText first}") ∈
        row.errors.messages kind ↔
      FirstAbout (s.subjectOf kind quiz) rows x first ∧ first < row.number
  /-- The first row about a subject has no error about it. -/
  untold : ∀ row ∈ rows, ∀ x, s.subjectOf kind quiz row = some x →
    FirstAbout (s.subjectOf kind quiz) rows x row.number → row.errors.subject = none
  /-- A row whose subject is not known keeps the error that says why. -/
  unknown : ∀ row ∈ rows, s.subjectOf kind quiz row = none →
    row.errors.subject = (s.subjectReading kind (.given quiz.courseId) row.cells).error ∧
      row.errors.subject ≠ none ∧ ∀ x first, row.errors.subject ≠ some (.duplicate x first)
  /-- Rows without an error about their subjects have them, and they are different. -/
  known : ∀ row ∈ rows, row.errors.subject = none → ∃ x, row.subjectId = some x ∧ x ≠ "" ∧
    s.subjectOf kind quiz row = some x
  distinct : rows.Pairwise fun row row' => row.errors.subject = none →
    row'.errors.subject = none → row.subjectId ≠ row'.subjectId

namespace Site

variable {s : Site} {kind : SubjectKind} {quiz : Quiz} {pinned : RowPasswords} {number : Nat}
  {records : List (List String)} {rows : List ImportRow}

/-- The subject of a listed row is that of its cells, and so is what is wrong with it. -/
lemma Lists.subject_eq (hl : s.Lists (.ofQuiz (.kind kind) quiz pinned) number records rows)
    {row : ImportRow} (hrow : row ∈ rows) :
    s.subjectReading kind (.given quiz.courseId) row.cells =
      ⟨row.subjectId, row.subjectName, row.errors.subject⟩ := by
  obtain ⟨record, password, -, -, hlisting⟩ := hl.exists_record hrow
  generalize row.number = n at hlisting
  obtain ⟨-, rfl⟩ := listing_eq_some.mp hlisting
  dsimp only
  rw [s.rowOf_subjectId _ record, s.rowOf_subjectName _ record, s.rowOf_subjectError _ record]
  unfold RunSettings.ofQuiz Mode.lookupKind
  dsimp only

/-- **Rows are marked by the subjects that the tables name.** -/
lemma Lists.knownSubject_eq (hids : s.HasIds)
    (hl : s.Lists (.ofQuiz (.kind kind) quiz pinned) number records rows) {row : ImportRow}
    (hrow : row ∈ rows) : row.knownSubject = s.subjectOf kind quiz row := by
  have hsubject := hl.subject_eq hrow
  unfold ImportRow.knownSubject subjectOf resolved?
  rw [show row.subjectId = _ from congrArg (·.id) hsubject.symm,
    show row.errors.subject = _ from congrArg (·.error) hsubject.symm]
  rcases hreading : (s.subjectReading kind (.given quiz.courseId) row.cells).error with _ | e
  · obtain ⟨x, hx, hne⟩ := hids.subjectReading hreading
    simp [hx, given?_some hne]
  · simp

/-- A subject is not known if and only if something is wrong with it. -/
lemma HasIds.resolved?_eq_none (hids : s.HasIds) {courseId : Field String} {c : Cells} :
    s.resolved? kind courseId c = none ↔ (s.subjectReading kind courseId c).error ≠ none := by
  unfold resolved?
  rcases hreading : (s.subjectReading kind courseId c).error with _ | e
  · obtain ⟨x, hx, -⟩ := hids.subjectReading hreading
    simp [hx]
  · simp

/-- A subject that is known is the one that the cells name. -/
lemma id_of_resolved? {courseId : Field String} {c : Cells} {x : String}
    (h : s.resolved? kind courseId c = some x) :
    (s.subjectReading kind courseId c).id = some x := by
  unfold resolved? at h
  split_ifs at h
  exact h

/-- **What is told about the subject of a row**: why it is not known, nothing, or the first row
about it. -/
inductive SubjectTold (s : Site) (kind : SubjectKind) (quiz : Quiz) (rows : List ImportRow)
    (row : ImportRow) : Prop where
  | unknown (hnone : s.subjectOf kind quiz row = none)
      (herror : row.errors.subject =
        (s.subjectReading kind (.given quiz.courseId) row.cells).error)
  | first {x : String} (hsome : s.subjectOf kind quiz row = some x)
      (hfirst : FirstAbout (s.subjectOf kind quiz) rows x row.number)
      (herror : row.errors.subject = none)
  | again {x : String} {first : Nat} (hsome : s.subjectOf kind quiz row = some x)
      (hfirst : FirstAbout (s.subjectOf kind quiz) rows x first) (hlt : first < row.number)
      (herror : row.errors.subject = some (.duplicate x first))

variable {table : Csv.Table} {run : ImportRun}

/-- The first rows about subjects stay so when duplicates are marked. -/
lemma Lists.firstAbout_iff (hids : s.HasIds)
    (hl : s.Lists (.ofQuiz (.kind kind) quiz pinned) number records rows) {x : String}
    {first : Nat} :
    FirstAbout ImportRow.knownSubject rows x first ↔
      FirstAbout (s.subjectOf kind quiz) (markDuplicates rows) x first := by
  have hmap : (markDuplicates rows).map (fun row => (row.number, s.subjectOf kind quiz row)) =
      rows.map fun row => (row.number, row.knownSubject) :=
    calc (markDuplicates rows).map (fun row => (row.number, s.subjectOf kind quiz row))
        = rows.map fun row => (row.number, s.subjectOf kind quiz row) :=
          markFrom_map _ (fun _ _ => rfl) [] rows
      _ = rows.map fun row => (row.number, row.knownSubject) :=
          List.map_congr_left fun row hrow => by rw [hl.knownSubject_eq hids hrow]
  rw [QuizOverrides.firstAbout_iff, QuizOverrides.firstAbout_iff, hmap]

/-- **What each row of a run is told.** -/
lemma Passes.subjectTold (hids : s.HasIds) (h : s.Passes table (.kind kind) quiz pinned run)
    {row : ImportRow} (hrow : row ∈ run.rows) :
    row.subjectId = (s.subjectReading kind (.given quiz.courseId) row.cells).id ∧
      s.SubjectTold kind quiz run.rows row := by
  obtain ⟨rows, hlists, hrows⟩ := h.listed
  rw [hrows] at hrow ⊢
  obtain ⟨listed, hlisted, hmarked⟩ := marked_of_mem hlists.sorted hrow
  have hreading := hlists.subject_eq hlisted
  have hid := congrArg (·.id) hreading.symm
  have herror := congrArg (·.error) hreading.symm
  have hsubject := hlists.knownSubject_eq hids hlisted
  cases hmarked with
  | unknown hknown =>
    rw [hsubject] at hknown
    exact ⟨hid, .unknown hknown herror⟩
  | first hknown hfirst =>
    have hnone : row.errors.subject = none := by
      by_contra hne
      rw [ImportRow.knownSubject, if_pos (Option.isSome_iff_ne_none.mpr hne)] at hknown
      cases hknown
    rw [hsubject] at hknown
    exact ⟨hid, .first hknown ((hlists.firstAbout_iff hids).mp hfirst) hnone⟩
  | again hknown hfirst hlt =>
    rw [hsubject] at hknown
    exact ⟨hid, .again hknown ((hlists.firstAbout_iff hids).mp hfirst) hlt rfl⟩

section

variable {row : ImportRow} {x : String}

/-- **A row is told the first row about its subject** if and only if that is earlier. -/
lemma SubjectTold.mem_messages_iff (h : s.SubjectTold kind quiz rows row)
    (hx : s.subjectOf kind quiz row = some x) (first : Nat) :
    (kind.idColumn, (SubjectError.duplicate x first).message kind) ∈ row.errors.messages kind ↔
      FirstAbout (s.subjectOf kind quiz) rows x first ∧ first < row.number := by
  rw [FieldErrors.mem_messages_subject]
  cases h with
  | unknown hnone => cases hx.symm.trans hnone
  | first hsome hfirst herror =>
    obtain rfl := Option.some.inj (hsome.symm.trans hx)
    constructor
    · intro htext
      simp [herror] at htext
    · rintro ⟨hfirst', hlt⟩
      exact absurd (hfirst'.unique hfirst) (Nat.ne_of_lt hlt)
  | again hsome hfirst hlt herror =>
    obtain rfl := Option.some.inj (hsome.symm.trans hx)
    rw [herror, Option.map_some, Option.some.injEq, SubjectError.message_duplicate_inj]
    constructor
    · rintro rfl
      exact ⟨hfirst, hlt⟩
    · rintro ⟨hfirst', -⟩
      exact hfirst.unique hfirst'

/-- The first row about a subject has no error about it. -/
lemma SubjectTold.error_eq_none (h : s.SubjectTold kind quiz rows row)
    (hx : s.subjectOf kind quiz row = some x)
    (hearliest : FirstAbout (s.subjectOf kind quiz) rows x row.number) :
    row.errors.subject = none := by
  cases h with
  | unknown hnone => cases hx.symm.trans hnone
  | first _ _ herror => exact herror
  | again hsome hfirst hlt =>
    obtain rfl := Option.some.inj (hsome.symm.trans hx)
    exact absurd (hfirst.unique hearliest) (Nat.ne_of_lt hlt)

/-- A row whose subject is not known keeps its error. -/
lemma SubjectTold.error_eq (h : s.SubjectTold kind quiz rows row)
    (hnone : s.subjectOf kind quiz row = none) :
    row.errors.subject = (s.subjectReading kind (.given quiz.courseId) row.cells).error := by
  cases h with
  | unknown _ herror => exact herror
  | first hsome => cases hsome.symm.trans hnone
  | again hsome => cases hsome.symm.trans hnone

/-- A row without an error about its subject is the first about it. -/
lemma SubjectTold.exists_first (hids : s.HasIds) (h : s.SubjectTold kind quiz rows row)
    (herror : row.errors.subject = none) : ∃ x, s.subjectOf kind quiz row = some x ∧
      FirstAbout (s.subjectOf kind quiz) rows x row.number := by
  cases h with
  | unknown hnone hreading =>
    exact absurd (hreading.symm.trans herror) (hids.resolved?_eq_none.mp hnone)
  | first hsome hfirst => exact ⟨_, hsome, hfirst⟩
  | again _ _ _ hduplicate => cases herror.symm.trans hduplicate

end

/-- **The rows of a run tell their duplicates.** -/
theorem Passes.tellsDuplicates (hids : s.HasIds)
    (h : s.Passes table (.kind kind) quiz pinned run) :
    s.TellsDuplicates kind quiz run.rows := by
  constructor
  case told =>
    intro row hrow x hx first
    exact (h.subjectTold hids hrow).2.mem_messages_iff hx first
  case untold =>
    intro row hrow x hx hearliest
    exact (h.subjectTold hids hrow).2.error_eq_none hx hearliest
  case unknown =>
    intro row hrow hnone
    have herror := (h.subjectTold hids hrow).2.error_eq hnone
    refine ⟨herror, ?_, fun x first => ?_⟩ <;> rw [herror]
    · exact hids.resolved?_eq_none.mp hnone
    · exact s.subjectReading_ne_duplicate _ _ _ x first
  case known =>
    intro row hrow herror
    obtain ⟨hid, htold⟩ := h.subjectTold hids hrow
    obtain ⟨x, hsome, -⟩ := htold.exists_first hids herror
    exact ⟨x, hid.trans (id_of_resolved? hsome), hids.ne_empty hsome, hsome⟩
  case distinct =>
    -- each of two such rows would be the first one about their subject
    refine h.sorted.imp_of_mem fun {row row'} hrow hrow' hlt herror herror' hsame => ?_
    obtain ⟨hid, htold⟩ := h.subjectTold hids hrow
    obtain ⟨hid', htold'⟩ := h.subjectTold hids hrow'
    obtain ⟨x, hsome, hfirst⟩ := htold.exists_first hids herror
    obtain ⟨x', hsome', hfirst'⟩ := htold'.exists_first hids herror'
    rw [hid, hid', id_of_resolved? hsome, id_of_resolved? hsome'] at hsame
    obtain rfl := Option.some.inj hsame
    exact absurd (hfirst.unique hfirst') (Nat.ne_of_lt hlt)

end Site

namespace ImportRun

/-- **Duplicates are told exactly.** Let a file of any length be processed at a site whose users and
groups have identifiers. A listed row whose subject is known, by its identifier, its number or its
name, is told that it is a duplicate of a row if and only if that row is the first listed row about
the same subject and comes before it. Rows whose subject is in error keep their errors, and count
for no other row, as do records that are not listed. The rows that are left without an error about
their subjects are about different ones.

**Proof sketch.** Marking goes through the listed rows in order and remembers the first row of each
subject that it meets, so that each row is judged by all earlier ones. The subject by which it goes
is the one that the tables give for the cells of the row. -/
theorem process_tells_duplicates {s s' : Site} {kind : SubjectKind} {quiz : Quiz}
    {pinned : RowPasswords} {table : Csv.Table} {run' : ImportRun} (hids : s.HasIds)
    (hprocess : runOn ({ settings := .ofQuiz (.kind kind) quiz pinned, table := table } :
      ImportRun).processIn s = ((.ok (.ok true), run'), s')) :
    s.TellsDuplicates kind quiz run'.rows :=
  (passes_of_processIn hprocess).tellsDuplicates hids

/-- The run over a file that names the first user of the small site twice. -/
def repeatingRun : ImportRun where
  settings := .ofQuiz (.kind .user) smallSiteQuiz []
  table := ⟨header .user, [["", "", "ann", "", "", "60", "", "", ""],
    ["", "", "bob", "", "", "", "", "", ""], ["", "", "nobody", "", "", "60", "", "", ""],
    ["", "", "ann", "", "", "", "3", "", ""]]⟩

/-- Of the four records the second is not listed, the third is about nobody, and the last is told
to be a duplicate of the first. -/
theorem process_tells_duplicates_repeatingRun : smallSite.HasIds ∧
    ∃ run' s', runOn repeatingRun.processIn smallSite = ((.ok (.ok true), run'), s') ∧
      run'.rows.map (fun row => (row.number, row.errors.subject)) =
        [(1, none), (3, some (.noMatch (.name "nobody"))), (4, some (.duplicate "u-1" 1))] ∧
      smallSite.TellsDuplicates .user smallSiteQuiz run'.rows := by
  have hfacts : (runOn repeatingRun.processIn smallSite).1.1 = .ok (.ok true) ∧
      (runOn repeatingRun.processIn smallSite).1.2.rows.map
        (fun row => (row.number, row.errors.subject)) =
        [(1, none), (3, some (.noMatch (.name "nobody"))), (4, some (.duplicate "u-1" 1))] := by
    decide +kernel
  obtain ⟨result, run', s', hprocess⟩ := exists_runOn repeatingRun.processIn smallSite
  rw [hprocess] at hfacts
  obtain ⟨hresult, hrows⟩ := hfacts
  obtain rfl : result = .ok (.ok true) := hresult
  exact ⟨smallSite_hasIds, run', s', hprocess, hrows,
    process_tells_duplicates smallSite_hasIds hprocess⟩

end ImportRun

end QuizOverrides
