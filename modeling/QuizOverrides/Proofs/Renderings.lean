import Mathlib.Data.List.Forall2
import QuizOverrides.Proofs.DelimitedText

set_option autoImplicit false

/-!
# Reading any rendering of a table

A table can be rendered in many ways: each cell bare or between quotes, each row ended by a line
feed, by a carriage return, or by both. All renderings are read alike. The rows without content are
left out; the first one that is left is the header, and the others are handed out one by one.

## Main definitions

* `QuizOverrides.Csv.LineEnd` — the ways to end a row.
* `QuizOverrides.Csv.RendersRow`, `QuizOverrides.Csv.RendersTable` — the ways to write rows and
  tables.
* `QuizOverrides.Csv.Cursor.after` — a cursor that records have been taken from.

## Main results

* `QuizOverrides.Csv.RendersTable.grid_append` — the rows that are read of a rendering.
* `QuizOverrides.Csv.Table.ofText_of_renders` — the header and the records that are read of it.
-/

namespace QuizOverrides.Csv

open Text

/-! ### Renderings -/

/-- **The ways to end a row**: a line feed, one after a carriage return, or a carriage return. -/
inductive LineEnd where
  | feed
  | returnFeed
  | loneReturn
deriving DecidableEq, Repr

namespace LineEnd

/-- The characters of a line end. -/
def chars : LineEnd → List Char
  | feed => ['\n']
  | returnFeed => ['\r', '\n']
  | loneReturn => ['\r']

/-- What follows a line end is not taken for a part of it. -/
def Clear (ending : LineEnd) (rest : List Char) : Prop :=
  ending = loneReturn → rest.head? ≠ some '\n'

end LineEnd

/-- **The ways to write the cells of a row**, each of them in any way. -/
def RendersRow (sep : Char) (row : List String) (raws : List (List Char)) : Prop :=
  List.Forall₂ (fun cell raw => Renders sep cell.toList raw) row raws

/-- **The ways to write a table**: row after row, with separators between the cells and a line end
after the last of them. -/
inductive RendersTable (sep : Char) : List (List String) → List Char → Prop where
  | nil : RendersTable sep [] []
  | cons {row : List String} {raws : List (List Char)} {rows : List (List String)}
      {text : List Char} (hraws : RendersRow sep row raws) (ending : LineEnd)
      (hclear : ending.Clear text) (hrest : RendersTable sep rows text) :
      RendersTable sep (row :: rows) ([sep].intercalate raws ++ (ending.chars ++ text))

/-- No line feed follows a carriage return in a cell. -/
def Unfolded (cell : String) : Prop := ¬['\r', '\n'] <:+: cell.toList

/-- The characters of the delimiters separate cells, and are no line ends. -/
lemma Delimiter.isSeparator (d : Delimiter) : IsSeparator d.char ∧ d.char ≠ '\r' := by
  cases d <;> exact ⟨⟨by decide, by decide⟩, by decide⟩

/-! ### Line ends -/

/-- **All line ends are read alike**: as one character that ends a line. -/
lemma LineEnd.foldLines_append {ending : LineEnd} {rest : List Char} (h : ending.Clear rest) :
    ∃ c, (c = '\n' ∨ c = '\r') ∧ foldLines (ending.chars ++ rest) = c :: foldLines rest := by
  cases ending with
  | feed => exact ⟨'\n', .inl rfl, foldLines_cons_of_ne (by decide) rest⟩
  | returnFeed =>
    refine ⟨'\n', .inl rfl, ?_⟩
    change foldLines ('\r' :: '\n' :: rest) = _
    rw [foldLines_cons, if_pos ⟨rfl, rfl⟩, foldLines_cons_of_ne (by decide)]
  | loneReturn =>
    refine ⟨'\r', .inr rfl, ?_⟩
    change foldLines ('\r' :: rest) = _
    rw [foldLines_cons, if_neg fun hpair => h rfl hpair.2]

namespace Renders

variable {sep : Char} {cs raw : List Char}

/-- A written cell has no line ends to fold but those of the cell. -/
lemma foldLines_eq (h : Renders sep cs raw) (hunfolded : ¬['\r', '\n'] <:+: cs) :
    foldLines raw = raw := by
  cases h with
  | bare hbreak =>
    apply foldLines_eq_self
    intro hmem
    simpa [isBreak] using hbreak _ hmem
  | enclosed => rw [foldLines_enclose, foldLines_eq_self_iff.mpr hunfolded]

/-- A written cell does not end in a carriage return. -/
lemma getLast?_ne (h : Renders sep cs raw) : raw.getLast? ≠ some '\r' := by
  intro hlast
  cases h with
  | bare hbreak => simpa [isBreak] using hbreak _ (List.mem_of_getLast? hlast)
  | enclosed =>
    rw [enclose, List.getLast?_append, List.getLast?_singleton] at hlast
    exact absurd (Option.some.inj hlast) (by decide)

/-- Only the empty cell can be written as nothing. -/
lemma ne_nil (h : Renders sep cs raw) (hne : cs ≠ []) : raw ≠ [] := by
  cases h with
  | bare => exact hne
  | enclosed => simp [enclose]

end Renders

/-! ### Rows -/

namespace RendersRow

variable {sep : Char} {row : List String} {raws : List (List Char)}

/-- The cells of a written row are written one by one. -/
lemma exists_cell (h : RendersRow sep row raws) :
    ∀ raw ∈ raws, ∃ cell ∈ row, Renders sep cell.toList raw := by
  induction h with
  | nil => simp
  | @cons cell raw row raws hcell _ ih =>
    intro r hr
    rcases List.mem_cons.mp hr with rfl | hr
    · exact ⟨cell, List.mem_cons_self, hcell⟩
    · obtain ⟨c, hc, hrenders⟩ := ih r hr
      exact ⟨c, List.mem_cons_of_mem _ hc, hrenders⟩

/-- Every raw text of a row is a rendering. -/
lemma exists_renders (h : RendersRow sep row raws) : ∀ raw ∈ raws, ∃ cs, Renders sep cs raw := by
  intro raw hraw
  obtain ⟨cell, -, hcell⟩ := h.exists_cell raw hraw
  exact ⟨_, hcell⟩

/-- The contents of the cells of a written row are the row. -/
lemma map_readCell (h : RendersRow sep row raws) : raws.map readCell = row := by
  induction h with
  | nil => rfl
  | cons hcell _ ih => simp [readCell, hcell.unquote_eq, ih]

/-- A row that is written has a cell if it has one to be written. -/
lemma ne_nil (h : RendersRow sep row raws) (hne : row ≠ []) : raws ≠ [] := by
  intro hnil
  apply hne
  rw [← h.map_readCell, hnil, List.map_nil]

/-- **The line ends after a written row** are folded apart from it. -/
lemma foldLines_append (hsep : IsSeparator sep) (hreturn : sep ≠ '\r') (h : RendersRow sep row raws)
    (hunfolded : ∀ cell ∈ row, Unfolded cell) (tail : List Char) :
    foldLines ([sep].intercalate raws ++ tail) = [sep].intercalate raws ++ foldLines tail := by
  have hcells : ∀ raw ∈ raws, foldLines raw = raw ∧ raw.getLast? ≠ some '\r' := by
    intro raw hraw
    obtain ⟨cell, hcell, hrenders⟩ := h.exists_cell raw hraw
    exact ⟨hrenders.foldLines_eq (hunfolded cell hcell), hrenders.getLast?_ne⟩
  have hlast : ([sep].intercalate raws).getLast? ≠ some '\r' := by
    apply getLast?_intercalate hreturn
    intro raw hraw
    exact (hcells raw (List.mem_of_getLast? hraw)).2
  rw [Csv.foldLines_append (.inl hlast), foldLines_intercalate hreturn (.inl hsep.notLine)]
  congr 2
  exact (List.map_congr_left fun raw hraw => (hcells raw hraw).1).trans (List.map_id raws)

/-- **A written row is read** as the row, and what follows its line end as further rows. -/
theorem grid_cons (hsep : IsSeparator sep) (hreturn : sep ≠ '\r') (h : RendersRow sep row raws)
    (hne : row ≠ []) (hunfolded : ∀ cell ∈ row, Unfolded cell) {ending : LineEnd}
    {rest : List Char} (hclear : ending.Clear rest) :
    grid sep ([sep].intercalate raws ++ (ending.chars ++ rest)) = row :: grid sep rest := by
  obtain ⟨c, hc, hfold⟩ := LineEnd.foldLines_append hclear
  have hbreak : isBreak sep c = true := by rcases hc with rfl | rfl <;> simp [isBreak]
  have hquote : c ≠ quote := by rcases hc with rfl | rfl <;> decide
  have hline : breakEnd sep c = .line := by
    unfold breakEnd
    rcases hc with rfl | rfl
    · simp [hsep.notLine.symm]
    · simp [hreturn.symm]
  unfold grid scan
  rw [h.foldLines_append hsep hreturn hunfolded, hfold,
    gather_scanFrom_row hsep (h.ne_nil hne) h.exists_renders hbreak hquote hline, List.map_cons]
  exact congrArg (· :: _) h.map_readCell

/-- A written row at the end of the text, all of whose cells have content. -/
lemma grid_last (hsep : IsSeparator sep) (hreturn : sep ≠ '\r') (h : RendersRow sep row raws)
    (hne : row ≠ []) (hcells : ∀ cell ∈ row, Unfolded cell ∧ cell ≠ "") :
    grid sep ([sep].intercalate raws) = [row] := by
  have hgiven : ∀ raw ∈ raws, raw ≠ [] := by
    intro raw hraw
    obtain ⟨cell, hcell, hrenders⟩ := h.exists_cell raw hraw
    apply hrenders.ne_nil
    intro hnil
    exact (hcells cell hcell).2 (String.toList_eq_nil_iff.mp hnil)
  have hfold := h.foldLines_append hsep hreturn (fun cell hcell => (hcells cell hcell).1) []
  rw [List.append_nil, foldLines, List.append_nil] at hfold
  unfold grid scan
  rw [hfold, gather_scanFrom_last hsep (h.ne_nil hne) h.exists_renders, lastCells_eq_self hgiven,
    if_neg (h.ne_nil hne), List.map_singleton]
  exact congrArg (fun cells => [cells]) h.map_readCell

end RendersRow

/-! ### Tables -/

/-- **The rows that are read of a rendering** are those of the table, if each has a cell; what
follows the rendering gives further rows.

**Proof sketch.** By induction on the table: its first row is read, and the scan goes on after its
line end. -/
theorem RendersTable.grid_append {sep : Char} (hsep : IsSeparator sep) (hreturn : sep ≠ '\r')
    {rows : List (List String)} {text : List Char} (h : RendersTable sep rows text)
    (hne : ∀ row ∈ rows, row ≠ []) (hunfolded : ∀ row ∈ rows, ∀ cell ∈ row, Unfolded cell)
    {rest : List Char} (hrest : rest.head? ≠ some '\n') :
    grid sep (text ++ rest) = rows ++ grid sep rest := by
  induction h with
  | nil => rfl
  | @cons row raws rows text hraws ending hclear _ ih =>
    obtain ⟨hrow, hne⟩ := List.forall_mem_cons.mp hne
    obtain ⟨hcells, hunfolded⟩ := List.forall_mem_cons.mp hunfolded
    have hclear : ending.Clear (text ++ rest) := by
      intro hlone
      rcases text with _ | ⟨c, text⟩
      · exact hrest
      · exact hclear hlone
    rw [List.append_assoc, List.append_assoc,
      hraws.grid_cons hsep hreturn hrow hcells hclear, ih hne hunfolded, List.cons_append]

/-- Rows without cells are written as line ends only. -/
lemma RendersTable.blank_of_empty {sep : Char} {rows : List (List String)} {text : List Char}
    (h : RendersTable sep rows text) (hempty : ∀ row ∈ rows, row = []) :
    ∀ c ∈ text, isBlank c = true := by
  induction h with
  | nil => simp
  | cons hraws ending _ _ ih =>
    obtain ⟨rfl, hrest⟩ := List.forall_mem_cons.mp hempty
    cases hraws
    intro c hc
    rcases List.mem_append.mp hc with hc | hc
    · simp at hc
    · rcases List.mem_append.mp hc with hc | hc
      · have hend : ending.chars.all isBlank = true := by
          cases ending <;> decide
        exact List.all_eq_true.mp hend c hc
      · exact ih hrest c hc

namespace Table

/-- The rows with content, all filled up, are a header and the records under it. -/
lemma ofGrid_eq (rows : List (List String)) :
    ofGrid rows = ⟨((rows.map (fill (widest rows))).filter hasContent).headD [],
      ((rows.map (fill (widest rows))).filter hasContent).tail⟩ := by
  unfold ofGrid
  split
  next hrows =>
    rw [hrows]
    rfl
  next hrows =>
    rw [hrows]
    rfl

/-- Rows of one width need no filling up. -/
lemma map_fill_widest {n : Nat} {rows : List (List String)} (h : ∀ row ∈ rows, row.length = n) :
    rows.map (fill (widest rows)) = rows := by
  rcases rows with _ | ⟨row, rest⟩
  · rfl
  · have hrow := h row List.mem_cons_self
    have hwidest : widest (row :: rest) = n :=
      widest_eq (fun r hr => Nat.le_of_eq (h r hr)) ⟨row, List.mem_cons_self, hrow⟩
    rw [hwidest, map_fill h]

end Table

/-! ### Records -/

namespace Cursor

/-- **The cursor after a number of calls** for the next record. -/
def after : Nat → Cursor → Cursor
  | 0, c => c
  | k + 1, c => after k c.next.2

/-- **The records are handed out in order**, and nothing after the last. -/
lemma next_after (k : Nat) (c : Cursor) : (after k c).next.1 = c.rest[k]? := by
  induction k generalizing c with
  | zero =>
    unfold after next
    split <;> simp_all
  | succ k ih =>
    rw [after, ih]
    unfold next
    split <;> simp_all

end Cursor

/-- **Reading undoes every rendering.** A table of rows of one width, in whose cells no line feed
follows a carriage return, is read of every text that renders it under a delimiter, if the text has
something else than blanks and announces neither a byte-order mark nor a separator: the columns are
the first row with content, and the calls for the next record give the later rows with content in
order, and then nothing.

**Proof sketch.** The rows that are read are those of the table, unless they have no cells, when
the text would be blank. Rows of one width are not filled up, so that only those without content are
lost. -/
theorem Table.ofText_of_renders {d : Delimiter} {n : Nat} {rows : List (List String)}
    {content : String} (hwidth : ∀ row ∈ rows, row.length = n)
    (hunfolded : ∀ row ∈ rows, ∀ cell ∈ row, Unfolded cell)
    (hrenders : RendersTable d.char rows content.toList) (hplain : Plain content.toList) :
    (ofText content d).columns = (rows.filter hasContent).headD [] ∧
      ∀ k, ((Cursor.ofTable (ofText content d)).after k).next.1 =
        (rows.filter hasContent).tail[k]? := by
  have hne : ∀ row ∈ rows, row ≠ [] := by
    intro row hrow hnil
    have hzero : n = 0 := by rw [← hwidth row hrow, hnil, List.length_nil]
    apply hplain.given
    apply trimChars_eq_nil_iff.mpr
    apply hrenders.blank_of_empty
    intro r hr
    exact List.length_eq_zero_iff.mp ((hwidth r hr).trans hzero)
  have hgrid : grid d.char content.toList = rows := by
    have happend : grid d.char (content.toList ++ []) = rows ++ grid d.char [] :=
      hrenders.grid_append d.isSeparator.1 d.isSeparator.2 hne hunfolded (by simp)
    simpa [grid, scan, foldLines, scanFrom, gather] using happend
  have htable : ofText content d =
      ⟨(rows.filter hasContent).headD [], (rows.filter hasContent).tail⟩ := by
    rw [ofText_of_plain hplain, hgrid, ofGrid_eq, map_fill_widest hwidth]
  rw [htable]
  refine ⟨rfl, ?_⟩
  intro k
  rw [Cursor.next_after, Cursor.ofTable]

/-- A table with separators, quotes and carriage returns in its cells, and rows without content. -/
def mixedRows : List (List String) :=
  [["", ""], ["a;b", "say \x22hi\x22"], ["", "x\ry"], ["", ""], [" ", "2,5"]]

/-- A rendering of the table with several line ends, and quotes that are needed and that are not. -/
def mixedText : String :=
  ";\r\n\x22a;b\x22;say \x22hi\x22\n;\x22x\ry\x22\r\x22\x22;\r\n\x22 \x22;2,5\n"

/-- A cell that has no breaks and begins with no quote can be written bare. -/
lemma renders_of_all {sep : Char} {cs : List Char}
    (hbreak : (cs.all fun c => !isBreak sep c) = true) (hquote : cs.head? ≠ some quote) :
    Renders sep cs cs := by
  apply Renders.bare _ hquote
  intro c hc
  simpa using List.all_eq_true.mp hbreak c hc

/-- The rendering of the table. -/
lemma rendersTable_mixedText : RendersTable ';' mixedRows mixedText.toList := by
  have htext : mixedText.toList =
      [';'].intercalate [[], []] ++ (LineEnd.returnFeed.chars ++
      ([';'].intercalate [enclose "a;b".toList, "say \x22hi\x22".toList] ++ (LineEnd.feed.chars ++
      ([';'].intercalate [[], enclose "x\ry".toList] ++ (LineEnd.loneReturn.chars ++
      ([';'].intercalate [enclose [], []] ++ (LineEnd.returnFeed.chars ++
      ([';'].intercalate [enclose " ".toList, "2,5".toList] ++
      (LineEnd.feed.chars ++ []))))))))) := by decide +kernel
  have hempty : Renders ';' "".toList [] := renders_of_all (by decide) (by decide)
  have hsaid : Renders ';' "say \x22hi\x22".toList "say \x22hi\x22".toList :=
    renders_of_all (by decide) (by decide)
  have hnumber : Renders ';' "2,5".toList "2,5".toList := renders_of_all (by decide) (by decide)
  rw [htext]
  refine .cons (.cons hempty (.cons hempty .nil)) .returnFeed (by rintro ⟨⟩) ?_
  refine .cons (.cons (.enclosed _) (.cons hsaid .nil)) .feed (by rintro ⟨⟩) ?_
  refine .cons (.cons hempty (.cons (.enclosed _) .nil)) .loneReturn (fun _ => by decide +kernel) ?_
  refine .cons (.cons (.enclosed _) (.cons hempty .nil)) .returnFeed (by rintro ⟨⟩) ?_
  exact .cons (.cons (.enclosed _) (.cons hnumber .nil)) .feed (by rintro ⟨⟩) .nil

/-- What is read of the rendering: the first row with content is the header. -/
theorem Table.ofText_of_renders_mixedText :
    (∀ row ∈ mixedRows, row.length = 2) ∧ (∀ row ∈ mixedRows, ∀ cell ∈ row, Unfolded cell) ∧
    RendersTable Delimiter.semicolon.char mixedRows mixedText.toList ∧ Plain mixedText.toList ∧
    (ofText mixedText .semicolon).columns = ["a;b", "say \x22hi\x22"] ∧
    ∀ k, ((Cursor.ofTable (ofText mixedText .semicolon)).after k).next.1 =
      [["", "x\ry"], [" ", "2,5"]][k]? := by
  have hwidth : ∀ row ∈ mixedRows, row.length = 2 := by decide
  have hunfolded : ∀ row ∈ mixedRows, ∀ cell ∈ row, Unfolded cell := by
    simp only [Unfolded, ← foldLines_eq_self_iff]
    decide +kernel
  have hplain : Plain mixedText.toList := ⟨by decide +kernel, by decide +kernel, by decide +kernel⟩
  have hrows : mixedRows.filter hasContent =
      [["a;b", "say \x22hi\x22"], ["", "x\ry"], [" ", "2,5"]] := by decide +kernel
  have hread := Table.ofText_of_renders hwidth hunfolded (d := .semicolon) rendersTable_mixedText
    hplain
  rw [hrows] at hread
  exact ⟨hwidth, hunfolded, rendersTable_mixedText, hplain, hread⟩

end QuizOverrides.Csv
