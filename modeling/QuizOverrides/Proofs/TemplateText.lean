import QuizOverrides.Proofs.Templates

set_option autoImplicit false

/-!
# Reading the text of a template

A written cell with a carriage return and nothing else that is special is not enclosed, and each of
its carriage returns is read as the end of a line; in an enclosed cell a carriage return before a
line feed is dropped. Written tables without such cells are read back, and no others.

## Main definitions

* `QuizOverrides.Csv.Pieces` — the pieces that are read of a written cell.
* `QuizOverrides.Csv.ReadRow` — what is known of every row that is read of a written table.

## Main results

* `QuizOverrides.Csv.readRow_of_mem_gather` — rows that are read are no wider than those that have
  been written, and have guarded cells only.
* `QuizOverrides.Csv.Table.ofText_write_iff` — the tables that are read back.
* `QuizOverrides.ImportService.buildTemplate_reads_back` — the templates that are read back.
-/

namespace QuizOverrides.Csv

open Text

/-! ### Cells in pieces -/

/-- A text cut at its carriage returns. -/
lemma exists_cut (cs : List Char) : ∃ (init : List (List Char)) (last : List Char),
    cs = init.flatMap (· ++ ['\r']) ++ last ∧
      ∀ piece ∈ init ++ [last], '\r' ∉ piece ∧ ∀ c ∈ piece, c ∈ cs := by
  induction cs with
  | nil => exact ⟨[], [], rfl, by simp⟩
  | cons c cs ih =>
    obtain ⟨init, last, htext, hpieces⟩ := ih
    have hmem : ∀ piece ∈ init ++ [last], '\r' ∉ piece ∧ ∀ d ∈ piece, d ∈ c :: cs :=
      fun piece hpiece => ⟨(hpieces piece hpiece).1,
        fun d hd => List.mem_cons_of_mem c ((hpieces piece hpiece).2 d hd)⟩
    by_cases hc : c = '\r'
    · refine ⟨[] :: init, last, ?_, List.forall_mem_cons.mpr ⟨by simp, hmem⟩⟩
      rw [hc, htext]
      simp
    · -- the character goes to the first piece, which may be the last one
      rcases init with _ | ⟨first, init⟩
      · refine ⟨[], c :: last, by rw [htext]; rfl, ?_⟩
        obtain ⟨hreturn, hlast⟩ := hmem last (by simp)
        simpa [hreturn, Ne.symm hc] using fun d hd => by simpa using hlast d hd
      · refine ⟨(c :: first) :: init, last, by rw [htext]; rfl, ?_⟩
        obtain ⟨hfirst, hrest⟩ := List.forall_mem_cons.mp hmem
        refine List.forall_mem_cons.mpr ⟨⟨?_, ?_⟩, hrest⟩
        · simpa [hfirst.1] using Ne.symm hc
        · exact List.forall_mem_cons.mpr ⟨List.mem_cons_self, hfirst.2⟩

/-- Folding line ends drops nothing but carriage returns. -/
lemma mem_foldLines {c : Char} {cs : List Char} (hc : c ≠ '\r') (h : c ∈ cs) :
    c ∈ foldLines cs := by
  induction cs with
  | nil => exact h
  | cons d cs ih =>
    rw [foldLines_cons]
    split_ifs with hpair
    · exact ih ((List.mem_cons.mp h).resolve_left fun hsame => hc (hsame.trans hpair.1))
    · exact (List.mem_cons.mp h).elim (fun hsame => hsame ▸ List.mem_cons_self)
        fun hmem => List.mem_cons_of_mem _ (ih hmem)

/-- An enclosed cell is guarded with its line ends folded too. -/
lemma guarded_foldCell {cell : String} (h : Guarded cell) : Guarded (foldCell cell) := by
  intro hreturn
  rw [foldCell, String.toList_ofList] at hreturn ⊢
  obtain ⟨c, hc, hspecial⟩ := List.any_eq_true.mp (h ((foldLines_sublist _).subset hreturn))
  refine List.any_eq_true.mpr ⟨c, mem_foldLines ?_ hc, hspecial⟩
  rintro rfl
  exact absurd hspecial (by decide)

/-- **The pieces of a written cell**: with carriage returns between them they are its text, and each
is a way to write a guarded cell. -/
structure Pieces (cell : String) (init : List (List Char)) (last : List Char) : Prop where
  text : foldLines (writeCell cell) = init.flatMap (· ++ ['\r']) ++ last
  renders : ∀ piece ∈ init ++ [last], ∃ cs, Renders ',' cs piece
  guarded : ∀ piece ∈ init ++ [last], Guarded (readCell piece)

/-- **Every written cell has pieces**: an enclosed one is one piece, and a bare one is cut. -/
lemma exists_pieces (cell : String) : ∃ init last, Pieces cell init last := by
  by_cases hguarded : Guarded cell
  · refine ⟨[], foldLines (writeCell cell), rfl, ?_, ?_⟩
    · exact List.forall_mem_singleton.mpr ⟨_, renders_writeCell hguarded⟩
    · refine List.forall_mem_singleton.mpr ?_
      rw [readCell_writeCell hguarded]
      exact guarded_foldCell hguarded
  · obtain ⟨hreturn, hquotes⟩ := Classical.not_imp.mp hguarded
    have hbare : ¬(needsQuotes cell.toList || cell.toList == ['I', 'D']) = true := by
      rw [Bool.or_eq_true, not_or, beq_iff_eq]
      refine ⟨hquotes, fun hid => ?_⟩
      rw [hid] at hreturn
      exact absurd hreturn (by decide)
    obtain ⟨init, last, htext, hpieces⟩ := exists_cut cell.toList
    have hrenders (piece : List Char) (hpiece : piece ∈ init ++ [last]) :
        Renders ',' piece piece :=
      renders_bare (fun c hc => not_special_of_bare hbare c ((hpieces piece hpiece).2 c hc))
        (hpieces piece hpiece).1
    refine ⟨init, last, ?_, fun piece hpiece => ⟨_, hrenders piece hpiece⟩,
      fun piece hpiece hmem => ?_⟩
    · rw [foldLines_writeCell, if_neg hbare, ← htext]
    · rw [readCell, (hrenders piece hpiece).unquote_eq, String.toList_ofList] at hmem
      exact absurd hmem (hpieces piece hpiece).1

/-- Pieces before carriage returns are cells of their own lines. -/
lemma scanFrom_pieces {init : List (List Char)} (h : ∀ piece ∈ init, ∃ cs, Renders ',' cs piece)
    (rest : List Char) :
    scanFrom ',' .fresh [] (init.flatMap (· ++ ['\r']) ++ rest) =
      init.map (⟨·, .line⟩) ++ scanFrom ',' .fresh [] rest := by
  induction init with
  | nil => rfl
  | cons piece init ih =>
    obtain ⟨⟨cs, hpiece⟩, hinit⟩ := List.forall_mem_cons.mp h
    have hline : breakEnd ',' '\r' = .line := by decide
    rw [List.flatMap_cons, List.append_assoc, List.append_assoc, List.singleton_append,
      hpiece.scanFrom_break (by decide) (by decide), hline, ih hinit]
    rfl

namespace Pieces

variable {cell : String} {init : List (List Char)} {last : List Char}

/-- A written cell that something ends. -/
lemma scanFrom_break (h : Pieces cell init last) {c : Char} (hc : isBreak ',' c = true)
    (hquote : c ≠ quote) (rest : List Char) :
    scanFrom ',' .fresh [] (foldLines (writeCell cell) ++ c :: rest) =
      init.map (⟨·, .line⟩) ++ ⟨last, breakEnd ',' c⟩ :: scanFrom ',' .fresh [] rest := by
  obtain ⟨cs, hlast⟩ := h.renders last (by simp)
  rw [h.text, List.append_assoc,
    scanFrom_pieces fun piece hpiece => h.renders piece (List.mem_append_left _ hpiece),
    hlast.scanFrom_break hc hquote]

/-- A written cell at the end of the text. -/
lemma scanFrom_end (h : Pieces cell init last) :
    scanFrom ',' .fresh [] (foldLines (writeCell cell)) =
      init.map (⟨·, .line⟩) ++ if last.isEmpty then [] else [⟨last, .text⟩] := by
  obtain ⟨cs, hlast⟩ := h.renders last (by simp)
  rw [h.text,
    scanFrom_pieces fun piece hpiece => h.renders piece (List.mem_append_left _ hpiece),
    hlast.scanFrom_end]

end Pieces

/-! ### Rows that are read -/

/-- **What is known of a row that is read** of a table whose rows have at most `n` cells. -/
structure ReadRow (n : Nat) (raws : List (List Char)) : Prop where
  narrow : raws.length ≤ n
  guarded : ∀ raw ∈ raws, Guarded (readCell raw)

/-- The rows of cells with line ends after them. -/
lemma gather_lines (pieces : List (List Char)) (cells : List RawCell) :
    gather (pieces.map (⟨·, .line⟩) ++ cells) =
      pieces.map (fun piece => [piece]) ++ gather cells := by
  induction pieces with
  | nil => rfl
  | cons piece pieces ih =>
    rw [List.map_cons, List.cons_append, gather, ih]
    · rfl
    · rintro ⟨⟩

namespace Pieces

variable {cell : String} {init : List (List Char)} {last : List Char}

/-- The rows of the pieces before the last. -/
lemma readRow_init (h : Pieces cell init last) (n : Nat) :
    ∀ raws ∈ init.map fun piece => [piece], ReadRow (n + 1) raws :=
  List.forall_mem_map.mpr fun piece hpiece =>
    ⟨by simp, List.forall_mem_singleton.mpr (h.guarded piece (List.mem_append_left _ hpiece))⟩

/-- A row with the last piece alone. -/
lemma readRow_last (h : Pieces cell init last) (n : Nat) : ReadRow (n + 1) [last] :=
  ⟨by simp, List.forall_mem_singleton.mpr (h.guarded last (by simp))⟩

/-- The last piece goes before the first of the rows that follow the separator. -/
lemma readRow_separator (h : Pieces cell init last) {n : Nat} {cells : List RawCell}
    (hcells : ∀ raws ∈ gather cells, ReadRow n raws) :
    ∀ raws ∈ gather (⟨last, .separator⟩ :: cells), ReadRow (n + 1) raws := by
  rw [gather]
  rcases hrows : gather cells with _ | ⟨row, rows⟩
  · exact List.forall_mem_singleton.mpr (h.readRow_last n)
  · rw [hrows] at hcells
    obtain ⟨hrow, hrest⟩ := List.forall_mem_cons.mp hcells
    refine List.forall_mem_cons.mpr ⟨⟨Nat.succ_le_succ hrow.narrow, ?_⟩, fun raws hraws => ?_⟩
    · exact List.forall_mem_cons.mpr ⟨h.guarded last (by simp), hrow.guarded⟩
    · exact ⟨Nat.le_succ_of_le (hrest raws hraws).narrow, (hrest raws hraws).guarded⟩

end Pieces

/-- A row of two or more cells is written cell by cell. -/
lemma foldedRow_cons_cons (cell next : String) (row : List String) :
    foldedRow (cell :: next :: row) =
      foldLines (writeCell cell) ++ ',' :: foldedRow (next :: row) := by
  simp [foldedRow, foldedCells, List.intercalate_cons_cons]

/-- **What is read of a line**: cells that make rows of their own, whatever follows the line. -/
lemma exists_cells_line {row : List String} (hne : row ≠ []) : ∃ cells,
    (∀ rest, scanFrom ',' .fresh [] (foldedRow row ++ '\n' :: rest) =
      cells ++ scanFrom ',' .fresh [] rest) ∧
    gather cells ≠ [] ∧ (∀ cells', gather (cells ++ cells') = gather cells ++ gather cells') ∧
    ∀ raws ∈ gather cells, ReadRow row.length raws := by
  have hline : breakEnd ',' '\n' = .line := by decide
  induction row with
  | nil => exact absurd rfl hne
  | cons cell row ih =>
    obtain ⟨init, last, hpieces⟩ := exists_pieces cell
    rcases row with _ | ⟨next, row⟩
    · refine ⟨init.map (⟨·, .line⟩) ++ [⟨last, .line⟩], fun rest => ?_, ?_, fun cells' => ?_, ?_⟩
      · rw [foldedRow, foldedCells, List.map_singleton, List.intercalate_singleton,
          hpieces.scanFrom_break (by decide) (by decide), hline, List.append_assoc]
        rfl
      · rw [gather_lines]
        simp [gather]
      · rw [List.append_assoc, gather_lines, gather_lines, List.append_assoc]
        rfl
      · rw [gather_lines]
        intro raws hraws
        rcases List.mem_append.mp hraws with hraws | hraws
        · exact hpieces.readRow_init _ raws hraws
        · rw [List.mem_singleton.mp hraws]
          exact hpieces.readRow_last _
    · obtain ⟨cells, hscan, hgiven, hclosed, hrows⟩ := ih (by simp)
      refine ⟨init.map (⟨·, .line⟩) ++ ⟨last, .separator⟩ :: cells, fun rest => ?_, ?_,
        fun cells' => ?_, ?_⟩
      · rw [foldedRow_cons_cons, List.append_assoc, List.cons_append,
          hpieces.scanFrom_break (by decide) (by decide), breakEnd_self, hscan, List.append_assoc]
        rfl
      · rw [gather_lines, gather]
        rcases gather cells with _ | ⟨row, rows⟩ <;> simp
      · rw [List.append_assoc, gather_lines, gather_lines, List.append_assoc, List.cons_append,
          gather, gather, hclosed]
        obtain ⟨first, rows, hfirst⟩ := List.exists_cons_of_ne_nil hgiven
        rw [hfirst]
        rfl
      · rw [gather_lines]
        intro raws hraws
        rcases List.mem_append.mp hraws with hraws | hraws
        · exact hpieces.readRow_init _ raws hraws
        · exact hpieces.readRow_separator hrows raws hraws

/-- **What is read of a last line.** -/
lemma readRow_last_line {row : List String} (hne : row ≠ []) :
    ∀ raws ∈ gather (scanFrom ',' .fresh [] (foldedRow row)), ReadRow row.length raws := by
  induction row with
  | nil => exact absurd rfl hne
  | cons cell row ih =>
    obtain ⟨init, last, hpieces⟩ := exists_pieces cell
    intro raws hraws
    rcases row with _ | ⟨next, row⟩
    · rw [foldedRow, foldedCells, List.map_singleton, List.intercalate_singleton,
        hpieces.scanFrom_end, gather_lines] at hraws
      rcases List.mem_append.mp hraws with hraws | hraws
      · exact hpieces.readRow_init _ raws hraws
      · split_ifs at hraws
        · exact absurd hraws List.not_mem_nil
        · rw [List.mem_singleton.mp hraws]
          exact hpieces.readRow_last _
    · rw [foldedRow_cons_cons, hpieces.scanFrom_break (by decide) (by decide), breakEnd_self,
        gather_lines] at hraws
      rcases List.mem_append.mp hraws with hraws | hraws
      · exact hpieces.readRow_init _ raws hraws
      · exact hpieces.readRow_separator (ih (by simp)) raws hraws

/-- **The rows that are read** of a written table are no wider than its rows, and their cells are
guarded. -/
theorem readRow_of_mem_gather {n : Nat} {rows : List (List String)}
    (hrows : ∀ row ∈ rows, row ≠ [] ∧ row.length ≤ n) :
    ∀ raws ∈ gather (scan ',' (['\n'].intercalate (rows.map foldedRow))), ReadRow n raws := by
  have hwiden {row : List String} (hle : row.length ≤ n) {raws : List (List Char)}
      (hread : ReadRow row.length raws) : ReadRow n raws :=
    ⟨Nat.le_trans hread.narrow hle, hread.guarded⟩
  unfold scan
  induction rows with
  | nil => simp [scanFrom, gather]
  | cons row rows ih =>
    obtain ⟨⟨hne, hle⟩, hrows⟩ := List.forall_mem_cons.mp hrows
    intro raws hraws
    rcases rows with _ | ⟨next, rows⟩
    · rw [List.map_singleton, List.intercalate_singleton] at hraws
      exact hwiden hle (readRow_last_line hne raws hraws)
    · obtain ⟨cells, hscan, -, hclosed, hcells⟩ := exists_cells_line hne
      rw [List.map_cons, List.map_cons, List.intercalate_cons_cons, List.append_assoc,
        List.singleton_append, hscan, hclosed] at hraws
      rcases List.mem_append.mp hraws with hraws | hraws
      · exact hwiden hle (hcells raws hraws)
      · exact ih hrows raws hraws

/-! ### Tables -/

namespace Table

/-- **A table that can be written**: its header has a name for each column, its records have a cell
for each, of which the last is guarded, and its text is read under the separator asked for. -/
structure Writable (columns : List String) (records : List (List String)) : Prop where
  given : columns ≠ []
  named : ∀ cell ∈ columns, cell ≠ "" ∧ '\r' ∉ cell.toList
  width : ∀ record ∈ records, record.length = columns.length
  last : ∀ record ∈ records, ∀ cell ∈ record.getLast?, Guarded cell
  plain : Plain (write (columns :: records)).toList

variable {columns : List String} {records : List (List String)}

namespace Writable

/-- The names of columns are kept. -/
lemma kept_columns (h : Writable columns records) : ∀ cell ∈ columns, Kept cell :=
  fun cell hcell => kept_of_not_mem (h.named cell hcell).2

/-- No column is without a name. -/
lemma named_columns (h : Writable columns records) : ∀ cell ∈ columns, cell ≠ "" :=
  fun cell hcell => (h.named cell hcell).1

/-- The names of the columns are content. -/
lemma hasContent_columns (h : Writable columns records) : hasContent columns = true := by
  obtain ⟨cell, hcell⟩ := List.exists_mem_of_ne_nil _ h.given
  exact List.any_eq_true.mpr ⟨cell, hcell, by simpa using h.named_columns cell hcell⟩

end Writable

/-- Rows under a header that is not narrower than they are. -/
lemma ofGrid_cons {rows : List (List String)} (hcontent : hasContent columns = true)
    (hwidth : ∀ row ∈ rows, row.length ≤ columns.length) :
    ofGrid (columns :: rows) =
      ⟨columns, (rows.map (fill columns.length)).filter hasContent⟩ := by
  have hwidest : widest (columns :: rows) = columns.length :=
    widest_eq (List.forall_mem_cons.mpr ⟨Nat.le_refl _, hwidth⟩) ⟨columns, by simp, rfl⟩
  unfold ofGrid
  rw [hwidest, List.map_cons, fill_of_length rfl, List.filter_cons_of_pos hcontent]

/-- The header is the first row that is read. -/
lemma Writable.grid_write {record : List String} (h : Writable columns (record :: records)) :
    grid ',' (write (columns :: record :: records)).toList = columns ::
      (gather (scan ',' (['\n'].intercalate ((record :: records).map foldedRow)))).map
        (List.map readCell) := by
  have hkept := h.kept_columns
  have hcells : foldedCells columns ≠ [] := by simpa [foldedCells] using h.given
  have hrenders : ∀ raw ∈ foldedCells columns, ∃ cs, Renders ',' cs raw :=
    List.forall_mem_map.mpr fun cell hcell => ⟨_, renders_writeCell (hkept cell hcell).guarded⟩
  have hread : (foldedCells columns).map readCell = columns := by
    rw [map_readCell_writeCell fun cell hcell => (hkept cell hcell).guarded, map_foldCell hkept]
  have hlast : ∀ row ∈ columns :: record :: records, ∀ cell ∈ row.getLast?, Guarded cell :=
    List.forall_mem_cons.mpr
      ⟨fun cell hcell => (hkept cell (List.mem_of_getLast? hcell)).guarded, h.last⟩
  unfold grid scan
  rw [foldLines_write hlast, List.map_cons, List.map_cons, List.intercalate_cons_cons,
    List.append_assoc, List.singleton_append, foldedRow,
    gather_scanFrom_line ⟨by decide, by decide⟩ hcells hrenders]
  exact congrArg (· :: _) hread

/-- **What is read of a written table** has its header and records with guarded cells only. -/
theorem Writable.ofText_write (h : Writable columns records) :
    (ofText (write (columns :: records)) .comma).columns = columns ∧
      ∀ record ∈ (ofText (write (columns :: records)) .comma).records,
        hasContent record = true ∧ ∀ cell ∈ record, Guarded cell := by
  rcases records with _ | ⟨record, records⟩
  · rw [Table.ofText_write h.given h.named_columns h.width (by simp)
      (List.forall_mem_singleton.mpr h.kept_columns) h.plain]
    exact ⟨rfl, by simp⟩
  · have hrows : ∀ row ∈ record :: records, row ≠ [] ∧ row.length ≤ columns.length :=
      fun row hrow => by
        have hlength := h.width row hrow
        refine ⟨fun hnil => h.given ?_, Nat.le_of_eq hlength⟩
        rw [hnil, List.length_nil] at hlength
        exact List.length_eq_zero_iff.mp hlength.symm
    have hread := readRow_of_mem_gather hrows
    rw [ofText_of_plain h.plain, Delimiter.char, h.grid_write, ofGrid_cons h.hasContent_columns]
    · refine ⟨rfl, fun filled hfilled => ?_⟩
      obtain ⟨hfilled, hgiven⟩ := List.mem_filter.mp hfilled
      refine ⟨hgiven, ?_⟩
      obtain ⟨row, hrow, rfl⟩ := List.mem_map.mp hfilled
      obtain ⟨raws, hraws, rfl⟩ := List.mem_map.mp hrow
      refine List.forall_mem_append.mpr ⟨List.forall_mem_map.mpr (hread raws hraws).guarded,
        fun cell hcell => ?_⟩
      rw [(List.mem_replicate.mp hcell).2]
      exact (kept_of_not_mem (by decide)).guarded
    · refine List.forall_mem_map.mpr fun raws hraws => ?_
      rw [List.length_map]
      exact (hread raws hraws).narrow

/-- **The tables that are read back** are those whose records have a cell that is not empty, and no
cell that is not kept.

**Proof sketch.** Whatever is read is guarded, so that the cells of a table that is read back are
guarded. Such cells are read with their line ends folded, which leaves only kept cells as they
are. -/
theorem ofText_write_iff (h : Writable columns records) :
    ofText (write (columns :: records)) .comma = ⟨columns, records⟩ ↔
      ∀ record ∈ records, hasContent record = true ∧ ∀ cell ∈ record, Kept cell := by
  constructor
  · intro hsame
    obtain ⟨-, hrecords⟩ := h.ofText_write
    rw [hsame] at hrecords
    have hfold := ofText_write_of_guarded h.given h.named_columns h.width
      (fun record hrecord => (hrecords record hrecord).1)
      (List.forall_mem_cons.mpr ⟨fun cell hcell => (h.kept_columns cell hcell).guarded,
        fun record hrecord => (hrecords record hrecord).2⟩) h.plain
    have hrows : records.map (List.map foldCell) = records.map id := by
      rw [List.map_id]
      exact (congrArg Table.records (hsame.symm.trans hfold)).symm
    refine fun record hrecord => ⟨(hrecords record hrecord).1, fun cell hcell => ?_⟩
    have hrow : record.map foldCell = record.map id :=
      (List.map_inj_left.mp hrows record hrecord).trans (List.map_id record).symm
    exact ⟨(hrecords record hrecord).2 cell hcell,
      foldCell_eq_self_iff.mp (List.map_inj_left.mp hrow cell hcell)⟩
  · intro hrecords
    exact Table.ofText_write h.given h.named_columns h.width
      (fun record hrecord => (hrecords record hrecord).1)
      (List.forall_mem_cons.mpr
        ⟨h.kept_columns, fun record hrecord => (hrecords record hrecord).2⟩) h.plain

end Table

end QuizOverrides.Csv

namespace QuizOverrides

open QuizOverrides.Action Calendar

/-! ### Templates -/

namespace Template

/-- **A line whose texts are kept** by writing and reading. -/
structure Line.Kept (l : Line) : Prop where
  id : Csv.Kept l.id
  number : Csv.Kept l.number
  name : Csv.Kept l.name
  password : ∀ p, l.values.password = some p → Csv.Kept p

/-- The cell of a time is kept. -/
lemma kept_timeCell (zone : Option Zone) (time : Option Instant) :
    Csv.Kept (timeCell zone time) := by
  refine Csv.kept_of_not_mem ?_
  rcases time with _ | i
  · exact List.not_mem_nil
  · exact return_not_mem_formatStamp i zone

/-- The cell of a number is kept. -/
lemma kept_numberCell (n : Option Whole) : Csv.Kept (numberCell n) := by
  refine Csv.kept_of_not_mem ?_
  rcases n with _ | w
  · exact List.not_mem_nil
  · exact w.return_not_mem_text

/-- **The cells of a line are kept** if its texts are: times and numbers have no carriage
returns. -/
lemma Line.forall_kept_iff {zone : Option Zone} {l : Line} :
    (∀ cell ∈ l.record zone, Csv.Kept cell) ↔ l.Kept := by
  have hempty : Csv.Kept "" := Csv.kept_of_not_mem List.not_mem_nil
  have hpassword : Csv.Kept (l.values.password.getD "") ↔
      ∀ p, l.values.password = some p → Csv.Kept p := by
    rcases l.values.password with _ | p <;> simp [hempty]
  unfold record valueCells
  simp only [List.cons_append, List.nil_append, List.forall_mem_cons, hpassword, kept_timeCell,
    kept_numberCell, hempty, true_and, List.not_mem_nil, false_imp_iff, implies_true, and_true]
  exact ⟨fun ⟨hid, hnumber, hname, hpass⟩ => ⟨hid, hnumber, hname, hpass⟩,
    fun h => ⟨h.id, h.number, h.name, h.password⟩⟩

/-- The rows of a template can be written under its header. -/
lemma writable (kind : SubjectKind) (zone : Option Zone) (lines : List Line) :
    Csv.Table.Writable (header kind) (lines.map (Line.record zone)) where
  given := by cases kind <;> decide
  named := by cases kind <;> decide
  width := List.forall_mem_map.mpr fun _ _ => by cases kind <;> rfl
  last := List.forall_mem_map.mpr fun l _ cell hcell => by
    -- the last cell asks for a password, and is empty
    obtain rfl : "" = cell := Option.some.inj hcell
    exact (Csv.kept_of_not_mem List.not_mem_nil).guarded
  plain := Csv.plain_write_header kind _

/-- The rows of the template of a quiz. -/
def records (s : Site) (quiz : Quiz) (kind : SubjectKind) : List (List String) :=
  (s.templateLines quiz kind).map (Line.record s.templateZone)

/-- **How the text of a template is read.** -/
structure ReadBack (s : Site) (quiz : Quiz) (kind : SubjectKind) (t : Template) : Prop where
  /-- The text is that of the rows under the header. -/
  content : t.content = Csv.write (header kind :: records s quiz kind)
  /-- Each row has nine cells. -/
  nine : ∀ record ∈ records s quiz kind, record.length = 9
  /-- The columns that are read are those of the header. -/
  columns : (Csv.Table.ofText t.content .comma).columns = header kind
  /-- The records that are read are the rows if and only if no row is empty and the identifier, the
  number, the name and the password of each line are kept. -/
  rows : Csv.Table.ofText t.content .comma = ⟨header kind, records s quiz kind⟩ ↔
    ∀ l ∈ s.templateLines quiz kind,
      Csv.Table.hasContent (l.record s.templateZone) = true ∧ l.Kept
  /-- No row is empty if subjects have identifiers. -/
  named : (∀ l ∈ s.templateLines quiz kind, l.id ≠ "") →
    ∀ record ∈ records s quiz kind, Csv.Table.hasContent record = true

end Template

/-- **A template is read back** cell by cell, unless it has a text with a carriage return that is
not enclosed or that a line feed follows. Without faults there is a template.

**Proof sketch.** The rows of a template are the cells of its lines. Of these only identifiers,
numbers, names and passwords can have a carriage return; a table is read back if and only if none of
its cells has one that is lost. -/
theorem ImportService.buildTemplate_reads_back (s : Site) (quiz : Quiz) (kind : SubjectKind) :
    (s.faults = [] → ∃ t s', (buildTemplate quiz (.kind kind)).Returns s t s') ∧
      ∀ t s', (buildTemplate quiz (.kind kind)).Returns s t s' → t.ReadBack s quiz kind := by
  have hlooks := Template.rows_looks quiz kind
  have hwritable := Template.writable kind s.templateZone (s.templateLines quiz kind)
  constructor
  · intro hs
    obtain ⟨s', hrows, -⟩ := hlooks.quiet hs
    exact ⟨_, s', buildTemplate_returns hrows⟩
  · intro t s' ht
    rw [buildTemplate_kind, returns_mapError] at ht
    obtain ⟨rows, s₁, hrows, ht⟩ := returns_bind.mp ht
    obtain ⟨rfl, -⟩ := returns_pure.mp ht
    obtain rfl := hlooks.returns hrows
    refine ⟨rfl, ?_, hwritable.ofText_write.1, ?_, fun hnamed => ?_⟩
    · exact List.forall_mem_map.mpr fun _ _ => rfl
    · refine (Csv.Table.ofText_write_iff hwritable).trans ?_
      rw [List.forall_mem_map]
      simp only [Template.Line.forall_kept_iff]
    · refine List.forall_mem_map.mpr fun l hl => ?_
      exact List.any_eq_true.mpr ⟨l.id, List.mem_cons_self, by simpa using hnamed l hl⟩

/-! ### A site with a name of two lines -/

/-- A site with a user whose name has a carriage return, and an override of theirs. -/
def twoLineSite : Site :=
  { users := [⟨"00000000-0000-4000-8000-0000000000b1", "ann\rlee", none, none, none⟩]
    quizzes := [quotedQuiz]
    overrides :=
      [⟨some "first", .forSubject (.given quotedQuiz.id) .user
        (some "00000000-0000-4000-8000-0000000000b1") ⟨none, none, none, some (.finite 2), none⟩⟩] }

/-- **A template that is not read back**: the row of the user is read as two. -/
theorem ImportService.buildTemplate_twoLineSite :
    Template.records twoLineSite quotedQuiz .user =
      [["00000000-0000-4000-8000-0000000000b1", "", "ann\rlee", "", "", "", "2", "", ""]] ∧
    ∃ t s', (buildTemplate quotedQuiz (.kind .user)).Returns twoLineSite t s' ∧
      Csv.Table.ofText t.content .comma = ⟨header .user,
        [["00000000-0000-4000-8000-0000000000b1", "", "ann", "", "", "", "", "", ""],
          ["lee", "", "", "", "2", "", "", "", ""]]⟩ := by
  obtain ⟨s', hrows, -⟩ := (Template.rows_looks quotedQuiz .user).quiet (s := twoLineSite) rfl
  refine ⟨by decide +kernel, _, s', buildTemplate_returns hrows, ?_⟩
  decide +kernel

end QuizOverrides
