import QuizOverrides.Proofs.HeaderLine

set_option autoImplicit false

/-!
# Rectangular tables

The rows of a table that is read of a text are the lines of the text with content, all filled up to
the widest line of the whole text, with or without content. A header is accepted only if it has nine
columns. Hence every record of an accepted file has nine cells, and the cells that are taken from
their places are the whole record, whatever the text looks like.

## Main definitions

* `QuizOverrides.Csv.Table.linesOf` — the lines that are read of a text.
* `QuizOverrides.Csv.Table.RectangleOf` — a table holds lines, and is no wider than they are.
* `QuizOverrides.Csv.Table.TakenWhole` — the records of a table are taken apart without loss.

## Main results

* `QuizOverrides.Csv.Table.ofGrid_rectangle` — tables are rectangles.
* `QuizOverrides.Csv.Table.ofText_rectangular` — records of texts, and what a run takes of them.
-/

namespace QuizOverrides

open QuizOverrides.Action

/-! ### Tables -/

namespace Csv.Table

variable {lines : List (List String)} {t : Table}

/-- **The lines that are read of a text** under the separator asked for, if one is; none of a text
of blanks only. -/
def linesOf (content : String) (asked : Option Char) : List (List String) :=
  let text := dropMark content.toList
  if Text.trimChars text = [] then []
  else grid (chooseSeparator asked text).1 (chooseSeparator asked text).2

/-- The table of a text is that of its lines. -/
lemma read_eq_ofGrid (content : String) (asked : Option Char) :
    read content asked = ofGrid (linesOf content asked) := by
  unfold read linesOf
  dsimp only
  split_ifs <;> rfl

/-- **A table is the rectangle of lines**: its rows are the lines with content, each with as many
empty cells after it as it needs to be as wide as the widest line. -/
structure RectangleOf (lines : List (List String)) (t : Table) : Prop where
  /-- Each record has as many cells as there are columns. -/
  width : ∀ record ∈ t.records, record.length = t.columns.length
  /-- Each record has a cell that is not empty. -/
  content : ∀ record ∈ t.records, ∃ cell ∈ record, cell ≠ ""
  /-- If there are columns, there are as many as the widest line has cells. -/
  widest : t.columns ≠ [] →
    (∀ line ∈ lines, line.length ≤ t.columns.length) ∧
      ∃ line ∈ lines, line.length = t.columns.length
  /-- The lines with content are the columns and the records, in order. -/
  rows : (lines.filter hasContent).map (fill t.columns.length) =
    if t.columns = [] then [] else t.columns :: t.records

/-- A line with content has a cell that is not empty. -/
lemma hasContent_iff {row : List String} : hasContent row = true ↔ ∃ cell ∈ row, cell ≠ "" := by
  simp [hasContent]

/-- Lines have content before they are filled up if and only if they have it afterwards. -/
lemma filter_map_fill (w : Nat) (lines : List (List String)) :
    (lines.map (fill w)).filter hasContent = (lines.filter hasContent).map (fill w) := by
  rw [List.filter_map]
  congr 2
  funext line
  exact hasContent_fill w line

/-- Some line is as wide as the widest. -/
lemma exists_length_eq_widest (h : lines ≠ []) : ∃ line ∈ lines, line.length = widest lines := by
  by_contra hnone
  have hless : ∀ line ∈ lines, line.length ≤ widest lines - 1 := by
    intro line hline
    have hne : line.length ≠ widest lines := fun heq => hnone ⟨line, hline, heq⟩
    have hle := length_le_widest hline
    omega
  obtain ⟨line, hline⟩ := List.exists_mem_of_ne_nil lines h
  have hle := length_le_widest hline
  have hwidest := widest_le_iff.mpr hless
  exact hnone ⟨line, hline, by omega⟩

/-- **The table of lines** is their rectangle.

**Proof sketch.** Filling up neither gives a line content nor takes it away, so the rows are the
lines with content, filled up. The first of them tells how wide they all are. -/
theorem ofGrid_rectangle (lines : List (List String)) : (ofGrid lines).RectangleOf lines := by
  have hrows := filter_map_fill (Table.widest lines) lines
  unfold ofGrid
  rcases hfilled : (lines.map (fill (Table.widest lines))).filter hasContent
    with _ | ⟨columns, records⟩
  · rw [hfilled, eq_comm, List.map_eq_nil_iff] at hrows
    constructor <;> simp [empty, hrows]
  · rw [hfilled] at hrows
    have hkept : ∀ row ∈ columns :: records,
        row.length = Table.widest lines ∧ hasContent row = true := fun row hrow =>
      mem_filled (hfilled ▸ hrow)
    -- the first row with content tells the width of all
    obtain ⟨hwidth, hcontent⟩ := hkept columns List.mem_cons_self
    have hne : columns ≠ [] := by
      rintro rfl
      exact absurd hcontent (by decide)
    constructor
    case width =>
      intro record hrecord
      exact (hkept record (List.mem_cons_of_mem _ hrecord)).1.trans hwidth.symm
    case content =>
      intro record hrecord
      exact hasContent_iff.mp (hkept record (List.mem_cons_of_mem _ hrecord)).2
    case widest =>
      intro _
      have hlines : lines ≠ [] := by
        rintro rfl
        simp at hfilled
      rw [hwidth]
      exact ⟨fun line hline => length_le_widest hline, exists_length_eq_widest hlines⟩
    case rows =>
      dsimp only
      rw [hwidth, ← hrows, if_neg hne]

/-- Empty cells make a table wider, but a separator that ends the text is followed by no cell. -/
example : ofText "a,b\n,\n1,,,\n" .comma = ⟨["a", "b", "", ""], [["1", "", "", ""]]⟩ ∧
    ofText "a,b\n1,2," .comma = ⟨["a", "b"], [["1", "2"]]⟩ := by
  decide +kernel

end Csv.Table

/-! ### Accepted headers -/

namespace ImportRun

/-- **A header that is not refused** has been accepted, whatever stops the run afterwards. -/
lemma process_of_processIn {run run' : ImportRun} {s s' : Site}
    {result : Except StorageError Bool} (h : runOn run.processIn s = ((.ok result, run'), s'))
    (hresult : result ≠ .ok false) :
    checkHeader run.settings.mode run.table.columns = none ∧
      runOn run.process s = ((result, run'), s') := by
  obtain ⟨-, hprocess⟩ := processIn_accepts h
  refine ⟨?_, hprocess⟩
  by_contra hrefused
  obtain ⟨e, he⟩ := Option.ne_none_iff_exists'.mp hrefused
  obtain ⟨s₁, hrun⟩ := process_refused run he s
  rw [hprocess, Prod.mk.injEq, Prod.mk.injEq] at hrun
  exact hresult hrun.1.1

end ImportRun

/-! ### Records and their cells -/

/-- A row that a scan has found has the cells of the record that it is numbered after. -/
lemma cells_of_mem_scanRecords {st : RunSettings} {records : List (List String)} {s : Site}
    {row : ImportRow} (h : row ∈ (runOn (scanRecords st 0 records) s).1.1) :
    ∃ i record, row.number = i + 1 ∧ records[i]? = some record ∧
      row.cells = .ofRecord record := by
  obtain ⟨n, hlists, -⟩ := scanRecords_lists_take st 0 records s
  obtain ⟨record, password, ⟨hpos, hrecord⟩, -, hlisting⟩ := hlists.exists_record h
  obtain ⟨-, hrow⟩ := Site.listing_eq_some.mp hlisting
  refine ⟨row.number - 1, record, by omega, ?_, (congrArg ImportRow.cells hrow).symm⟩
  rw [Nat.sub_zero, List.getElem?_take] at hrecord
  split_ifs at hrecord
  exact hrecord

/-- **The records of a table are taken apart without loss**: each has nine cells, and those taken
from the nine places are the record again. -/
structure Csv.Table.TakenWhole (t : Table) : Prop where
  columns : t.columns.length = 9
  nine : ∀ record ∈ t.records, record.length = 9
  recovered : ∀ record ∈ t.records, (Cells.ofRecord record).toRecord = record

/-- A rectangle under an accepted header is taken apart without loss. -/
lemma Csv.Table.RectangleOf.takenWhole {lines : List (List String)} {t : Table} {mode : Mode}
    (h : t.RectangleOf lines) (haccepted : checkHeader mode t.columns = none) : t.TakenWhole := by
  have hcolumns := length_of_checkHeader haccepted
  have hnine : ∀ record ∈ t.records, record.length = 9 := fun record hrecord =>
    (h.width record hrecord).trans hcolumns
  exact ⟨hcolumns, hnine, fun record hrecord => Cells.toRecord_ofRecord (hnine record hrecord)⟩

/-- **Tables of texts are rectangular.** Whatever the text and the delimiter, the table that is read
is the rectangle of the lines of the text: each record has as many cells as there are columns, and
one that is not empty. If a run over the table does not refuse the header, whatever else becomes of
the run, each record has nine cells and is recovered from the cells at the nine places; and each row
that the run has found has the record it is numbered after in its cells.

**Proof sketch.** All rows are filled up to one width, which is that of the header too. Accepted
headers have nine columns under any mode. Whether or not the scan is stopped, it has listed rows of
a first part of the records, and marking duplicates leaves the cells alone. -/
theorem Csv.Table.ofText_rectangular (content : String) (d : Delimiter) :
    (ofText content d).RectangleOf (linesOf content (some d.char)) ∧
    ∀ (mode : Mode) (quiz : Quiz) (pinned : RowPasswords) (s s' : Site)
      (result : Except StorageError Bool) (run' : ImportRun),
      runOn (ImportRun.onTable (ofText content d) mode quiz pinned).processIn s =
        ((.ok result, run'), s') → result ≠ .ok false →
      (ofText content d).TakenWhole ∧
      ∀ row ∈ run'.rows, ∃ i, row.number = i + 1 ∧
        (ofText content d).records[i]? = some row.cells.toRecord := by
  have hrectangle : (ofText content d).RectangleOf (linesOf content (some d.char)) := by
    unfold ofText
    rw [read_eq_ofGrid]
    exact ofGrid_rectangle _
  refine ⟨hrectangle, fun mode quiz pinned s s' result run' hrun hresult => ?_⟩
  obtain ⟨haccepted, hprocess⟩ := ImportRun.process_of_processIn hrun hresult
  have hwhole := hrectangle.takenWhole haccepted
  refine ⟨hwhole, fun row hrow => ?_⟩
  obtain ⟨-, -, hrows⟩ := ImportRun.process_not_refused haccepted s
  rw [hprocess] at hrows
  -- marking duplicates leaves the numbers and the cells alone
  have hcells : (row.number, row.cells) ∈ run'.rows.map fun row => (row.number, row.cells) :=
    List.mem_map_of_mem hrow
  rw [show run'.rows = _ from hrows, markDuplicates, markFrom_map _ fun _ _ => rfl] at hcells
  obtain ⟨found, hfound, heq⟩ := List.mem_map.mp hcells
  rw [Prod.mk.injEq] at heq
  obtain ⟨i, record, hnumber, hrecord, hof⟩ := cells_of_mem_scanRecords hfound
  refine ⟨i, heq.1.symm.trans hnumber, ?_⟩
  rw [← heq.2, hof, hwhole.recovered record (List.mem_of_getElem? hrecord)]
  exact hrecord

/-- A text with a short line, a line of separators, a blank line and a quote that is not closed. -/
def raggedText : String :=
  ",".intercalate (header .user) ++ "\n,,ann,,,60\n,,,,,,,,\n\n,,bob,,,,3,\x22a,b\n"

/-- The ragged text at the small site, where it is processed. -/
theorem Csv.Table.ofText_rectangular_raggedText :
    (ofText raggedText .comma).RectangleOf (linesOf raggedText (some ',')) ∧
    (ofText raggedText .comma).records = [["", "", "ann", "", "", "60", "", "", ""],
      ["", "", "bob", "", "", "", "3", "\x22a,b\n", ""]] ∧
    ∃ run' s', runOn (ImportRun.onTable (ofText raggedText .comma) (.kind .user)
        ImportRun.smallSiteQuiz []).processIn smallSite = ((.ok (.ok true), run'), s') ∧
      (ofText raggedText .comma).TakenWhole ∧
      ∀ row ∈ run'.rows, ∃ i, row.number = i + 1 ∧
        (ofText raggedText .comma).records[i]? = some row.cells.toRecord := by
  have htable : ofText raggedText .comma =
      ⟨header .user, [["", "", "ann", "", "", "60", "", "", ""],
        ["", "", "bob", "", "", "", "3", "\x22a,b\n", ""]]⟩ := by
    decide +kernel
  have haccepted : checkHeader (.kind .user) (ofText raggedText .comma).columns = none := by
    rw [htable]
    decide
  obtain ⟨run', s', hprocess, -⟩ := ImportRun.process_quiet (s := smallSite)
    (.onTable (ofText raggedText .comma) (.kind .user) ImportRun.smallSiteQuiz []) rfl haccepted
  have hrun := ImportRun.runOn_processIn (Mode.headerFault?_kind _ _) hprocess
  obtain ⟨hrectangle, hwhole⟩ := ofText_rectangular raggedText .comma
  exact ⟨hrectangle, by rw [htable], run', s', hrun, hwhole _ _ _ _ _ _ _ hrun (by simp)⟩

end QuizOverrides
