import QuizOverrides.Proofs.Classification
import QuizOverrides.Proofs.Renderings

set_option autoImplicit false

/-!
# The header of a text

The first line with content names the columns of a text. All lines are filled up to the widest
before the columns are looked at, so that a line with more cells than there are columns adds to the
header cells that nobody wrote. A header that is written as it should be is accepted if there is no
such line, and refused otherwise.

## Main definitions

* `QuizOverrides.Csv.Headed` — a text whose first line with content names the columns.
* `QuizOverrides.ImportRun.onTable` — the run over a table that nothing has been done with.
* `QuizOverrides.Site.JudgesHeader` — what the check of the header of such a text comes to.

## Main results

* `QuizOverrides.Csv.Headed.grid_eq` — the lines that are read of the text.
* `QuizOverrides.ImportRun.processIn_headed` — which headers are accepted.
-/

namespace QuizOverrides

namespace Csv

open Text

/-! ### Headed texts -/

/-- **What follows a line**: nothing, or a line end and the text `rest`. -/
inductive Follows (rest : List Char) : List Char → Prop where
  | nothing (hrest : rest = []) : Follows rest []
  | lines (ending : LineEnd) (hclear : ending.Clear rest) : Follows rest (ending.chars ++ rest)

/-- **A text whose first line with content names the columns**: the lines `blanks` stand before it,
whose cells are all empty, and the text `rest` after it. -/
structure Headed (sep : Char) (names : List String) (blanks : List (List String))
    (rest text : List Char) : Prop where
  blank : ∀ row ∈ blanks, row ≠ [] ∧ Table.hasContent row = false
  laidOut : ∃ lead raws tail, text = lead ++ ([sep].intercalate raws ++ tail) ∧
    RendersTable sep blanks lead ∧ RendersRow sep names raws ∧ Follows rest tail

/-- A written row begins with a quote or as its first cell does. -/
lemma RendersRow.exists_head {sep : Char} {cell : String} {row : List String}
    {raws : List (List Char)} (h : RendersRow sep (cell :: row) raws) (hne : cell ≠ "") :
    ∃ c rest, [sep].intercalate raws = c :: rest ∧
      (c = quote ∨ cell.toList.head? = some c ∧ isBreak sep c = false) := by
  obtain ⟨raw, raws, hcell, -, rfl⟩ := List.forall₂_cons_left_iff.mp h
  have hbegins : ∃ c rest, raw = c :: rest ∧
      (c = quote ∨ cell.toList.head? = some c ∧ isBreak sep c = false) := by
    rcases hchars : cell.toList with _ | ⟨c, cs⟩
    · exact absurd (String.toList_eq_nil_iff.mp hchars) hne
    · rw [hchars] at hcell
      cases hcell with
      | bare hbreak => exact ⟨c, cs, rfl, .inr ⟨rfl, hbreak c List.mem_cons_self⟩⟩
      | enclosed => exact ⟨quote, _, rfl, .inl rfl⟩
  obtain ⟨c, rest, rfl, hc⟩ := hbegins
  rcases raws with _ | ⟨next, raws⟩
  · exact ⟨c, rest, List.intercalate_singleton, hc⟩
  · exact ⟨c, _, List.intercalate_cons_cons, hc⟩

/-- Parts with separators between them have the characters of the parts and separators. -/
lemma mem_intercalate {sep c : Char} {parts : List (List Char)} (h : c ∈ [sep].intercalate parts) :
    c = sep ∨ ∃ part ∈ parts, c ∈ part := by
  induction parts with
  | nil => exact absurd h List.not_mem_nil
  | cons part parts ih =>
    rcases parts with _ | ⟨next, parts⟩
    · rw [List.intercalate_singleton] at h
      exact .inr ⟨part, List.mem_cons_self, h⟩
    · rw [List.intercalate_cons_cons, List.append_assoc, List.singleton_append, List.mem_append,
        List.mem_cons] at h
      rcases h with h | h | h
      · exact .inr ⟨part, List.mem_cons_self, h⟩
      · exact .inl h
      · exact (ih h).imp_right fun ⟨p, hp, hc⟩ => ⟨p, List.mem_cons_of_mem _ hp, hc⟩

/-- Rows without content are written with quotes, separators and line ends only. -/
lemma RendersTable.quote_or_break {sep : Char} {rows : List (List String)} {text : List Char}
    (h : RendersTable sep rows text) (hblank : ∀ row ∈ rows, Table.hasContent row = false) :
    ∀ c ∈ text, c = quote ∨ isBreak sep c = true := by
  induction h with
  | nil => simp
  | @cons row raws rows text hraws ending _ _ ih =>
    obtain ⟨hrow, hblank⟩ := List.forall_mem_cons.mp hblank
    have hcells : ∀ raw ∈ raws, ∀ c ∈ raw, c = quote := by
      intro raw hraw c hc
      obtain ⟨cell, hcell, hrenders⟩ := hraws.exists_cell raw hraw
      obtain rfl : cell = "" := by simpa using List.any_eq_false.mp hrow cell hcell
      cases hrenders with
      | bare => exact absurd hc List.not_mem_nil
      | enclosed => simpa [enclose, doubleQuotes] using hc
    have hend : ∀ c ∈ ending.chars, isBreak sep c = true := by
      cases ending <;> simp [LineEnd.chars, isBreak]
    intro c hc
    rcases List.mem_append.mp hc with hc | hc
    · rcases mem_intercalate hc with rfl | ⟨raw, hraw, hc⟩
      · exact .inr (by simp [isBreak])
      · exact .inl (hcells raw hraw c hc)
    · rcases List.mem_append.mp hc with hc | hc
      · exact .inr (hend c hc)
      · exact ih hblank c hc

/-! ### Lines -/

namespace Headed

variable {d : Delimiter} {kind : SubjectKind} {blanks : List (List String)}
  {rest text : List Char}

/-- The line of the header begins with the letter of the kind or with a quote. -/
lemma exists_opening {sep : Char} {raws : List (List Char)}
    (h : RendersRow sep (header kind) raws) (tail : List Char) :
    ∃ c line, [sep].intercalate raws ++ tail = c :: line ∧ (c = quote ∨ c = 'u' ∨ c = 'g') := by
  cases kind with
  | user =>
    obtain ⟨c, line, hline, hc⟩ := h.exists_head (by decide)
    refine ⟨c, line ++ tail, by rw [hline, List.cons_append], hc.imp_right ?_⟩
    rintro ⟨hletter, -⟩
    exact .inl (Option.some.inj hletter).symm
  | group =>
    obtain ⟨c, line, hline, hc⟩ := h.exists_head (by decide)
    refine ⟨c, line ++ tail, by rw [hline, List.cons_append], hc.imp_right ?_⟩
    rintro ⟨hletter, -⟩
    exact .inr (Option.some.inj hletter).symm

/-- **A text with a header is plain.** -/
lemma plain (h : Headed d.char (header kind) blanks rest text) : Plain text := by
  obtain ⟨lead, raws, tail, rfl, hlead, hraws, -⟩ := h.laidOut
  obtain ⟨c, line, hline, hc⟩ := exists_opening hraws tail
  rw [hline]
  apply plain_of_head
  · intro e he
    rcases lead with _ | ⟨e', lead⟩
    · obtain rfl : c = e := Option.some.inj he
      rcases hc with rfl | rfl | rfl <;> decide
    · obtain rfl : e' = e := Option.some.inj he
      rcases hlead.quote_or_break (fun row hrow => (h.blank row hrow).2) _ List.mem_cons_self
        with rfl | hbreak
      · decide
      · have hcases : e' = d.char ∨ e' = '\n' ∨ e' = '\r' := by
          simpa [isBreak, or_assoc] using hbreak
        rcases hcases with rfl | rfl | rfl
        · cases d <;> decide
        · decide
        · decide
  · refine ⟨c, by simp, ?_⟩
    rcases hc with rfl | rfl | rfl <;> decide

/-- **The lines of a text with a header**: the blank lines, the names and what follows. -/
theorem grid_eq (h : Headed d.char (header kind) blanks rest text) :
    grid d.char text = blanks ++ header kind :: grid d.char rest := by
  obtain ⟨lead, raws, tail, rfl, hlead, hraws, htail⟩ := h.laidOut
  obtain ⟨hsep, hreturn⟩ := d.isSeparator
  have hnames : ∀ name ∈ header kind, Unfolded name ∧ name ≠ "" := by
    intro name hname
    have hplain : ∀ name ∈ header kind, '\r' ∉ name.toList ∧ name ≠ "" := by
      cases kind <;> decide
    exact ⟨(kept_of_not_mem (hplain name hname).1).unfolded, (hplain name hname).2⟩
  have hne : header kind ≠ [] := by cases kind <;> decide
  have hblanks : ∀ row ∈ blanks, ∀ cell ∈ row, Unfolded cell := by
    intro row hrow cell hcell
    obtain rfl : cell = "" := by simpa using List.any_eq_false.mp (h.blank row hrow).2 cell hcell
    exact (kept_of_not_mem List.not_mem_nil).unfolded
  have hopening : ([d.char].intercalate raws ++ tail).head? ≠ some '\n' := by
    obtain ⟨c, line, hline, hc⟩ := exists_opening hraws tail
    rw [hline]
    rcases hc with rfl | rfl | rfl <;> simp [quote]
  rw [hlead.grid_append hsep hreturn (fun row hrow => (h.blank row hrow).1) hblanks hopening]
  congr 1
  cases htail with
  | nothing hrest =>
    rw [hrest, List.append_nil, hraws.grid_last hsep hreturn hne hnames]
    rfl
  | lines ending hclear =>
    exact hraws.grid_cons hsep hreturn hne (fun name hname => (hnames name hname).1) hclear

end Headed

namespace Table

variable {blanks lines : List (List String)} {names : List String}

/-- Filling up adds no content. -/
lemma hasContent_fill (w : Nat) (row : List String) : hasContent (fill w row) = hasContent row := by
  unfold hasContent fill
  rw [List.any_append, List.any_replicate]
  simp

/-- **The table under names of columns**: what is read of lines is filled up to the widest, the
names with it. -/
theorem ofGrid_headed (hblanks : ∀ row ∈ blanks, hasContent row = false)
    (hnames : hasContent names = true) :
    ofGrid (blanks ++ names :: lines) =
      ⟨fill (widest (blanks ++ names :: lines)) names,
        (lines.map (fill (widest (blanks ++ names :: lines)))).filter hasContent⟩ := by
  unfold ofGrid
  generalize widest (blanks ++ names :: lines) = w
  have hlost : (blanks.map (fill w)).filter hasContent = [] := by
    rw [List.filter_eq_nil_iff, List.forall_mem_map]
    intro row hrow
    rw [hasContent_fill, hblanks row hrow]
    exact Bool.false_ne_true
  rw [List.map_append, List.map_cons, List.filter_append, hlost, List.nil_append,
    List.filter_cons_of_pos ((hasContent_fill w names).trans hnames)]

end Table

end Csv

open QuizOverrides.Action Csv

/-! ### The check of the header -/

/-- **A header that is filled up** is accepted only if there was nothing to fill up. -/
lemma checkHeader_fill (kind : SubjectKind) (w : Nat) :
    checkHeader (.kind kind) (Table.fill w (header kind)) =
      if w ≤ 9 then none
      else some (.mismatch (header kind) (header kind ++ List.replicate (w - 9) "")) := by
  have hfill : Table.fill w (header kind) = header kind ++ List.replicate (w - 9) "" := by
    rw [Table.fill, length_header]
  have hne : header kind ++ List.replicate (w - 9) "" ≠ [] := by cases kind <;> simp [header]
  have hheader : (Mode.kind kind).header = header kind := rfl
  have hsame : header kind ++ List.replicate (w - 9) "" = header kind ↔ w ≤ 9 := by
    rw [List.append_right_eq_self, List.replicate_eq_nil_iff, Nat.sub_eq_zero_iff_le]
  unfold checkHeader
  rw [hfill, if_neg hne, hheader]
  simp only [hsame]

namespace ImportRun

/-- **The run over a table** that nothing has been done with. -/
def onTable (table : Csv.Table) (mode : Mode) (quiz : Quiz) (pinned : RowPasswords) : ImportRun :=
  { settings := .ofQuiz mode quiz pinned, table := table }

/-- A run whose header is refused ends there. -/
lemma process_refused (run : ImportRun) {e : HeaderError}
    (h : checkHeader run.settings.mode run.table.columns = some e) (s : Site) :
    ∃ s', runOn run.process s = ((.ok false, { run.cleared with headerError := some e }), s') := by
  have hcleared : checkHeader run.cleared.settings.mode run.cleared.table.columns = some e := h
  unfold process
  simp only [hcleared]
  exact ⟨_, rfl⟩

/-- A run whose header is accepted is not refused, and has the rows that its scan has found,
whatever stops it. -/
lemma process_not_refused {run : ImportRun}
    (h : checkHeader run.settings.mode run.table.columns = none) (s : Site) :
    (runOn run.process s).1.1 ≠ .ok false ∧ (runOn run.process s).1.2.headerError = none ∧
      (runOn run.process s).1.2.rows =
        markDuplicates (runOn (scanRecords run.settings 0 run.table.records) s).1.1 := by
  have hcleared : checkHeader run.cleared.settings.mode run.cleared.table.columns = none := h
  change _ ∧ _ ∧ _ = markDuplicates
    (runOn (scanRecords run.cleared.settings 0 run.cleared.table.records) s).1.1
  unfold process
  simp only [hcleared, runOn_bind]
  rcases runOn (scanRecords run.cleared.settings 0 run.cleared.table.records) s
    with ⟨⟨found, _ | e⟩, s₁⟩
  · exact ⟨by simp, rfl, rfl⟩
  · exact ⟨by simp, rfl, rfl⟩

end ImportRun

/-- **What the check of a header comes to** at a site, for a table that is read of the lines
`blanks` without content, the line of the header and the lines `lines`. -/
structure Site.JudgesHeader (s : Site) (kind : SubjectKind) (quiz : Quiz) (pinned : RowPasswords)
    (table : Csv.Table) (blanks lines : List (List String)) : Prop where
  /-- If no line has more than nine cells, the columns are those of the header, and the records are
  the lines with content, filled up. -/
  read : (∀ line ∈ blanks ++ lines, line.length ≤ 9) →
    table = ⟨header kind, (lines.map (Table.fill 9)).filter Table.hasContent⟩
  /-- Then the header is not refused, whatever faults storage has. -/
  accepted : (∀ line ∈ blanks ++ lines, line.length ≤ 9) →
    ∀ outcome run' s', runOn (ImportRun.onTable table (.kind kind) quiz pinned).processIn s =
      ((outcome, run'), s') → outcome ≠ .ok (.ok false) ∧ run'.headerError = none
  /-- Without faults the records are processed, and their errors are on the rows. -/
  processed : (∀ line ∈ blanks ++ lines, line.length ≤ 9) → s.faults = [] →
    ∃ run' s', runOn (ImportRun.onTable table (.kind kind) quiz pinned).processIn s =
      ((.ok (.ok true), run'), s') ∧ s.Passes table (.kind kind) quiz pinned run'
  /-- If a line has more cells, the header is refused for the empty cells that it is filled up
  with. -/
  refused : (∃ line ∈ blanks ++ lines, 9 < line.length) →
    ∃ run' s', runOn (ImportRun.onTable table (.kind kind) quiz pinned).processIn s =
        ((.ok (.ok false), run'), s') ∧
      run'.headerError = some (.mismatch (header kind)
        (header kind ++ List.replicate (Table.widest (blanks ++ lines) - 9) ""))

/-- The check of the header of a table under names of columns that have been filled up. -/
lemma Site.judgesHeader (s : Site) {kind : SubjectKind} (quiz : Quiz) (pinned : RowPasswords)
    {blanks lines : List (List String)}
    (hblanks : ∀ row ∈ blanks, Table.hasContent row = false) :
    s.JudgesHeader kind quiz pinned (Table.ofGrid (blanks ++ header kind :: lines)) blanks
      lines := by
  have hcontent : Table.hasContent (header kind) = true := by cases kind <;> decide
  have hwide : ∀ w, Table.widest (blanks ++ header kind :: lines) ≤ w ↔
      9 ≤ w ∧ Table.widest (blanks ++ lines) ≤ w := by
    intro w
    rw [Table.widest_le_iff, Table.widest_le_iff]
    simp only [List.mem_append, List.mem_cons, or_imp, forall_and, forall_eq, length_header]
    tauto
  have hnine : 9 ≤ Table.widest (blanks ++ header kind :: lines) :=
    ((hwide _).mp (Nat.le_refl _)).1
  rw [Table.ofGrid_headed hblanks hcontent]
  generalize Table.widest (blanks ++ header kind :: lines) = w at hwide hnine ⊢
  let table : Csv.Table := ⟨Table.fill w (header kind), (lines.map (Table.fill w)).filter
    Table.hasContent⟩
  let run : ImportRun := .onTable table (.kind kind) quiz pinned
  have hcheck : checkHeader run.settings.mode run.table.columns = _ := checkHeader_fill kind w
  have hfault : run.settings.mode.headerFault? run.table.columns = none :=
    Mode.headerFault?_kind kind _
  have hnarrow : (∀ line ∈ blanks ++ lines, line.length ≤ 9) → w = 9 := by
    intro hlines
    exact Nat.le_antisymm ((hwide 9).mpr ⟨Nat.le_refl _, Table.widest_le_iff.mpr hlines⟩) hnine
  constructor
  case read =>
    intro hlines
    obtain rfl := hnarrow hlines
    rw [Table.fill_of_length (length_header kind)]
  case accepted =>
    intro hlines outcome run' s' hrun
    rw [if_pos (Nat.le_of_eq (hnarrow hlines))] at hcheck
    obtain ⟨hok, herror, -⟩ := ImportRun.process_not_refused hcheck s
    rw [ImportRun.runOn_processIn hfault rfl, Prod.mk.injEq, Prod.mk.injEq] at hrun
    obtain ⟨⟨rfl, rfl⟩, -⟩ := hrun
    exact ⟨fun hsame => hok (Except.ok.inj hsame), herror⟩
  case processed =>
    intro hlines hs
    rw [if_pos (Nat.le_of_eq (hnarrow hlines))] at hcheck
    obtain ⟨run', s', hprocess, -⟩ := ImportRun.process_quiet run hs hcheck
    have hprocessIn := ImportRun.runOn_processIn hfault hprocess
    exact ⟨run', s', hprocessIn, ImportRun.passes_of_processIn hprocessIn⟩
  case refused =>
    rintro ⟨line, hline, hlong⟩
    have hlt : 9 < Table.widest (blanks ++ lines) :=
      Nat.lt_of_lt_of_le hlong (Table.length_le_widest hline)
    have hw : w = Table.widest (blanks ++ lines) := by
      apply Nat.le_antisymm
      · exact (hwide _).mpr ⟨Nat.le_of_lt hlt, Nat.le_refl _⟩
      · exact ((hwide w).mp (Nat.le_refl _)).2
    rw [if_neg (by omega)] at hcheck
    obtain ⟨s', hprocess⟩ := ImportRun.process_refused _ hcheck s
    exact ⟨_, s', ImportRun.runOn_processIn hfault hprocess, by rw [← hw]⟩

/-- **The verdict on a header that is written as it should be** depends on the width of the other
lines, and on nothing else: it is accepted if and only if none of them has more than nine cells.

**Proof sketch.** The lines that are read are the blank lines, the header and those after it, all
filled up to the widest. The header is compared after it has been filled up. -/
theorem ImportRun.processIn_headed {kind : SubjectKind} {d : Delimiter} {content : String}
    {blanks : List (List String)} {rest : List Char}
    (h : Headed d.char (header kind) blanks rest (Table.dropMark content.toList)) (quiz : Quiz)
    (pinned : RowPasswords) (s : Site) :
    s.JudgesHeader kind quiz pinned (Table.ofText content d) blanks (grid d.char rest) := by
  rw [Table.ofText_of_plain_dropMark h.plain, h.grid_eq]
  exact s.judgesHeader quiz pinned fun row hrow => (h.blank row hrow).2

/-! ### A line with ten cells -/

/-- A line whose tenth cell is empty, with a line end after it. -/
def tenCells : String := ",,ann,,,60,,,,\n"

/-- A text with a header and a line with ten cells. -/
def wideLine : String := ",".intercalate (header .user) ++ "\n" ++ tenCells

/-- The same text after a byte-order mark and a blank line, a name of the header between quotes. -/
def markedWideLine : String :=
  "\uFEFF,,\r\n\x22userid\x22," ++ ",".intercalate (header .user).tail ++ "\n" ++ tenCells

/-- Names can be written bare. -/
lemma rendersRow_header {names : List String} (h : ∀ name ∈ names, name ∈ header .user) :
    RendersRow ',' names (names.map String.toList) := by
  unfold RendersRow
  rw [List.forall₂_map_right_iff, List.forall₂_same]
  have hbare : (header .user).all (fun name => (name.toList.all fun c => !isBreak ',' c) &&
      name.toList.head? != some quote) = true := by
    decide +kernel
  intro name hname
  have hname := List.all_eq_true.mp hbare name (h name hname)
  rw [Bool.and_eq_true, bne_iff_ne] at hname
  exact renders_of_all hname.1 hname.2

/-- The header stands before the line with ten cells. -/
lemma headed_wideLine :
    Headed ',' (header .user) [] tenCells.toList (Table.dropMark wideLine.toList) where
  blank := by simp
  laidOut := by
    refine ⟨[], (header .user).map String.toList, _, ?_, .nil, rendersRow_header (by simp),
      .lines .feed (by rintro ⟨⟩)⟩
    decide +kernel

/-- So is the text with the mark, after a line of empty cells. -/
lemma headed_markedWideLine : Headed ',' (header .user) [["", "", ""]] tenCells.toList
    (Table.dropMark markedWideLine.toList) where
  blank := by decide
  laidOut := by
    have hempty : Renders ',' "".toList [] := renders_of_all (by decide) (by decide)
    have htail := rendersRow_header fun _ => List.mem_of_mem_tail (l := header .user)
    refine ⟨",,\r\n".toList, enclose "userid".toList :: (header .user).tail.map String.toList, _,
      ?_, ?_, .cons (.enclosed _) htail, .lines .feed (by rintro ⟨⟩)⟩
    · decide +kernel
    · exact .cons (.cons hempty (.cons hempty (.cons hempty .nil))) .returnFeed (by rintro ⟨⟩) .nil

/-- The verdict on the second text, at the small site. -/
theorem ImportRun.processIn_headed_markedWideLine :
    Headed ',' (header .user) [["", "", ""]] tenCells.toList
      (Table.dropMark markedWideLine.toList) ∧
    smallSite.JudgesHeader .user smallSiteQuiz [] (Table.ofText markedWideLine .comma)
      [["", "", ""]] (grid ',' tenCells.toList) :=
  ⟨headed_markedWideLine,
    processIn_headed (d := .comma) headed_markedWideLine smallSiteQuiz [] smallSite⟩

/-- **A header that is refused for another line**: the text begins with the line of the header and
has no quotes at all, but its second line has ten cells. -/
theorem ImportRun.processIn_wideLine :
    Headed ',' (header .user) [] tenCells.toList (Table.dropMark wideLine.toList) ∧
    quote ∉ wideLine.toList ∧
    ∃ run' s', runOn (onTable (Table.ofText wideLine .comma) (.kind .user) smallSiteQuiz
        []).processIn smallSite = ((.ok (.ok false), run'), s') ∧
      run'.headerError = some (.mismatch (header .user) (header .user ++ [""])) := by
  have htable : Table.ofText wideLine .comma =
      ⟨header .user ++ [""], [["", "", "ann", "", "", "60", "", "", "", ""]]⟩ := by
    decide +kernel
  have hcheck : checkHeader (.kind .user) (header .user ++ [""]) =
      some (.mismatch (header .user) (header .user ++ [""])) := by decide
  rw [htable]
  obtain ⟨s', hprocess⟩ := process_refused
    (onTable ⟨header .user ++ [""], _⟩ (.kind .user) smallSiteQuiz []) hcheck smallSite
  exact ⟨headed_wideLine, by decide +kernel, _, s',
    runOn_processIn (Mode.headerFault?_kind _ _) hprocess, rfl⟩

end QuizOverrides
