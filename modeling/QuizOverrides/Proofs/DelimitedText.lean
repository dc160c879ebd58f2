import Mathlib.Data.List.TakeWhile
import Mathlib.Tactic.Lemma
import Mathlib.Tactic.SplitIfs
import QuizOverrides.Csv.Table
import QuizOverrides.Csv.Writer

set_option autoImplicit false

/-!
# Reading written text

Scanning gives back the cells of a text that has been written. A cell may be written bare or between
quotes, and is ended by a separator, by a line end or by the end of the text. An empty cell at the
very end of a text is no cell, but its row is filled up again to the widest.

## Main definitions

* `QuizOverrides.Csv.Renders` — the ways to write a cell.
* `QuizOverrides.Csv.lastCells` — what is read of a last row that no line end follows.
* `QuizOverrides.Csv.Guarded`, `QuizOverrides.Csv.Kept` — cells whose carriage returns do not end
  them, and those that come back as they were.
* `QuizOverrides.Csv.Plain` — a text that is read under the separator asked for.

## Main results

* `QuizOverrides.Csv.Renders.unquote_eq` — the content of a written cell.
* `QuizOverrides.Csv.gather_scanFrom_line`, `QuizOverrides.Csv.gather_scanFrom_last` — the rows of
  written lines.
* `QuizOverrides.Csv.foldLines_write` — a written text with its line ends folded.
* `QuizOverrides.Csv.Table.ofText_write_of_guarded`, `QuizOverrides.Csv.Table.ofText_write` — a
  table that has been written is read back.
-/

namespace QuizOverrides.Csv

open Text

/-! ### Cells -/

/-- **The ways to write a cell**: bare, if nothing in it would be taken for its end and it does not
begin with a quote, or between quotes. -/
inductive Renders (sep : Char) : List Char → List Char → Prop where
  | bare {cs : List Char} (hbreak : ∀ c ∈ cs, isBreak sep c = false)
      (hquote : cs.head? ≠ some quote) : Renders sep cs cs
  | enclosed (cs : List Char) : Renders sep cs (enclose cs)

/-- A bare cell is read to its end. -/
lemma scanFrom_bare {sep : Char} {cs : List Char} (h : ∀ c ∈ cs, isBreak sep c = false)
    (cell rest : List Char) :
    scanFrom sep .bare cell (cs ++ rest) = scanFrom sep .bare (cs.reverse ++ cell) rest := by
  induction cs generalizing cell with
  | nil => rfl
  | cons c cs ih =>
    have hc := h c List.mem_cons_self
    have ih := ih (fun d hd => h d (List.mem_cons_of_mem _ hd)) (c :: cell)
    rw [List.cons_append, scanFrom, List.reverse_cons, List.append_assoc, List.singleton_append,
      ← ih]
    split_ifs
    · rfl
    · rename_i hend
      rw [hc] at hend
      exact absurd hend.1 (by decide)
    · rfl

/-- Within quotes a cell is read up to the quote that closes it. -/
lemma scanFrom_open (sep : Char) (cs cell rest : List Char) :
    scanFrom sep (.quoted true) cell (doubleQuotes cs ++ quote :: rest) =
      scanFrom sep (.quoted false) (quote :: (doubleQuotes cs).reverse ++ cell) rest := by
  induction cs generalizing cell with
  | nil =>
    rw [doubleQuotes, List.nil_append, scanFrom, if_pos rfl]
    rfl
  | cons c cs ih =>
    rw [doubleQuotes]
    split_ifs with hc
    · -- the first quote of a pair closes the cell, and the second one opens it again
      rw [List.cons_append, scanFrom, if_pos rfl, List.cons_append, scanFrom, if_pos rfl]
      change scanFrom sep (.quoted true) _ _ = _
      rw [ih]
      simp
    · rw [List.cons_append, scanFrom, if_neg hc, if_neg fun hend => hend.2 rfl]
      change scanFrom sep (.quoted true) _ _ = _
      rw [ih]
      simp

namespace Renders

variable {sep : Char} {cs raw : List Char}

/-- **A written cell is read to its end**, after which no quotes are open. -/
lemma scanFrom_eq (h : Renders sep cs raw) (rest : List Char) :
    ∃ state, state ≠ .quoted true ∧
      scanFrom sep .fresh [] (raw ++ rest) = scanFrom sep state raw.reverse rest := by
  cases h with
  | bare hbreak hquote =>
    rcases cs with _ | ⟨c, cs⟩
    · exact ⟨.fresh, by simp, rfl⟩
    · refine ⟨.bare, by simp, ?_⟩
      have hc : c ≠ quote := by simpa using hquote
      have hend : ¬(isBreak sep c = true ∧ CellState.fresh ≠ .quoted true) := by
        simp [hbreak c List.mem_cons_self]
      rw [List.cons_append, scanFrom, if_neg hc, if_neg hend]
      change scanFrom sep .bare _ _ = _
      rw [scanFrom_bare (fun d hd => hbreak d (List.mem_cons_of_mem _ hd)), List.reverse_cons]
  | enclosed =>
    refine ⟨.quoted false, by simp, ?_⟩
    have henclose : enclose cs ++ rest = quote :: (doubleQuotes cs ++ quote :: rest) := by
      simp [enclose]
    rw [henclose, scanFrom, if_pos rfl]
    change scanFrom sep (.quoted true) _ _ = _
    rw [scanFrom_open]
    simp [enclose]

/-- A written cell that something ends. -/
lemma scanFrom_break (h : Renders sep cs raw) {c : Char} (hc : isBreak sep c = true)
    (hquote : c ≠ quote) (rest : List Char) :
    scanFrom sep .fresh [] (raw ++ c :: rest) =
      ⟨raw, breakEnd sep c⟩ :: scanFrom sep .fresh [] rest := by
  obtain ⟨state, hstate, heq⟩ := h.scanFrom_eq (c :: rest)
  rw [heq, scanFrom, if_neg hquote, if_pos ⟨hc, hstate⟩, List.reverse_reverse]

/-- A written cell at the end of the text. -/
lemma scanFrom_end (h : Renders sep cs raw) :
    scanFrom sep .fresh [] raw = if raw.isEmpty then [] else [⟨raw, .text⟩] := by
  obtain ⟨state, -, heq⟩ := h.scanFrom_eq []
  rw [List.append_nil] at heq
  rw [heq, scanFrom, List.isEmpty_reverse, List.reverse_reverse]

end Renders

/-- Doubled quotes are made single again. -/
lemma singleQuotes_doubleQuotes (cs : List Char) : singleQuotes (doubleQuotes cs) = cs := by
  induction cs with
  | nil => rfl
  | cons c cs ih =>
    rw [doubleQuotes]
    split_ifs with hc
    · rw [singleQuotes, if_pos ⟨rfl, rfl⟩, ih, hc]
    · rcases hrest : doubleQuotes cs with _ | ⟨d, rest⟩
      · rw [hrest] at ih
        rw [← ih]
        rfl
      · rw [hrest] at ih
        rw [singleQuotes, if_neg fun hpair => hc hpair.1, ih]

/-- **The content of a written cell** is the cell. -/
theorem Renders.unquote_eq {sep : Char} {cs raw : List Char} (h : Renders sep cs raw) :
    unquote raw = cs := by
  unfold unquote
  cases h with
  | bare _ hquote => rw [if_neg fun hquoted => hquote hquoted.1]
  | enclosed =>
    have hlast : (enclose cs).getLast? = some quote := by
      rw [enclose, List.getLast?_append, List.getLast?_singleton]
      rfl
    have hinner : (enclose cs).tail.dropLast = doubleQuotes cs := by
      rw [enclose, List.cons_append, List.tail_cons, List.dropLast_concat]
    rw [if_pos ⟨rfl, hlast⟩, hinner, singleQuotes_doubleQuotes]

/-! ### Rows -/

/-- A character that can separate cells: neither a quote nor a line feed. -/
structure IsSeparator (sep : Char) : Prop where
  notQuote : sep ≠ quote
  notLine : sep ≠ '\n'

/-- A separator separates cells. -/
lemma breakEnd_self (sep : Char) : breakEnd sep sep = .separator := by
  unfold breakEnd
  rw [if_pos (by simp)]

/-- What is read of a last row that no line end follows: an empty cell at its end is no cell. -/
def lastCells (cells : List (List Char)) : List (List Char) :=
  if cells.getLast? = some [] then cells.dropLast else cells

section Rows

variable {sep : Char} {raws : List (List Char)}

/-- **A line is a row**: cells with separators between them and after them a character that ends a
line. -/
lemma gather_scanFrom_row (hsep : IsSeparator sep) (hne : raws ≠ [])
    (hraws : ∀ raw ∈ raws, ∃ cs, Renders sep cs raw) {c : Char} (hbreak : isBreak sep c = true)
    (hquote : c ≠ quote) (hline : breakEnd sep c = .line) (rest : List Char) :
    gather (scanFrom sep .fresh [] ([sep].intercalate raws ++ c :: rest)) =
      raws :: gather (scanFrom sep .fresh [] rest) := by
  induction raws with
  | nil => exact absurd rfl hne
  | cons raw raws ih =>
    obtain ⟨cs, hraw⟩ := hraws raw List.mem_cons_self
    rcases raws with _ | ⟨raw', raws⟩
    · rw [List.intercalate_singleton, hraw.scanFrom_break hbreak hquote, hline]
      rfl
    · have ih := ih (by simp) fun r hr => hraws r (List.mem_cons_of_mem _ hr)
      rw [List.intercalate_cons_cons, List.append_assoc, List.append_assoc, List.singleton_append,
        hraw.scanFrom_break (by simp [isBreak]) hsep.notQuote, breakEnd_self, gather, ih]

/-- A line with a line feed after it. -/
lemma gather_scanFrom_line (hsep : IsSeparator sep) (hne : raws ≠ [])
    (hraws : ∀ raw ∈ raws, ∃ cs, Renders sep cs raw) (rest : List Char) :
    gather (scanFrom sep .fresh [] ([sep].intercalate raws ++ '\n' :: rest)) =
      raws :: gather (scanFrom sep .fresh [] rest) := by
  have hline : breakEnd sep '\n' = .line := by
    unfold breakEnd
    rw [if_neg (by simpa using hsep.notLine.symm)]
  exact gather_scanFrom_row hsep hne hraws (by simp [isBreak]) (by decide) hline rest

/-- **A last line without a line end** is a row, but for an empty cell at its end. -/
lemma gather_scanFrom_last (hsep : IsSeparator sep) (hne : raws ≠ [])
    (hraws : ∀ raw ∈ raws, ∃ cs, Renders sep cs raw) :
    gather (scanFrom sep .fresh [] ([sep].intercalate raws)) =
      if lastCells raws = [] then [] else [lastCells raws] := by
  induction raws with
  | nil => exact absurd rfl hne
  | cons raw raws ih =>
    obtain ⟨cs, hraw⟩ := hraws raw List.mem_cons_self
    rcases raws with _ | ⟨raw', raws⟩
    · rw [List.intercalate_singleton, hraw.scanFrom_end]
      rcases raw with _ | ⟨c, raw⟩ <;> rfl
    · have ih := ih (by simp) fun r hr => hraws r (List.mem_cons_of_mem _ hr)
      have hlast : lastCells (raw :: raw' :: raws) = raw :: lastCells (raw' :: raws) := by
        unfold lastCells
        rw [List.getLast?_cons_cons, List.dropLast_cons_cons]
        split_ifs <;> rfl
      rw [List.intercalate_cons_cons, List.append_assoc, List.singleton_append,
        hraw.scanFrom_break (by simp [isBreak]) hsep.notQuote, breakEnd_self, gather, ih, hlast,
        if_neg (List.cons_ne_nil _ _)]
      by_cases hempty : lastCells (raw' :: raws) = []
      · rw [if_pos hempty, hempty]
      · rw [if_neg hempty]

/-- **Lines are rows**: all but the last one are ended by a line feed. -/
lemma gather_scan_lines (hsep : IsSeparator sep) {rows : List (List (List Char))}
    {last : List (List Char)}
    (hrows : ∀ row ∈ rows, row ≠ [] ∧ ∀ raw ∈ row, ∃ cs, Renders sep cs raw) (hne : last ≠ [])
    (hlast : ∀ raw ∈ last, ∃ cs, Renders sep cs raw) :
    gather (scan sep (['\n'].intercalate ((rows ++ [last]).map [sep].intercalate))) =
      rows ++ if lastCells last = [] then [] else [lastCells last] := by
  unfold scan
  induction rows with
  | nil =>
    rw [List.nil_append, List.map_singleton, List.intercalate_singleton]
    exact gather_scanFrom_last hsep hne hlast
  | cons row rows ih =>
    obtain ⟨hrow, hraws⟩ := hrows row List.mem_cons_self
    have ih := ih fun r hr => hrows r (List.mem_cons_of_mem _ hr)
    obtain ⟨line, lines, hlines⟩ : ∃ line lines,
        (rows ++ [last]).map [sep].intercalate = line :: lines := by
      rcases rows with _ | ⟨r, rows⟩ <;> exact ⟨_, _, rfl⟩
    rw [List.cons_append, List.map_cons]
    rw [hlines] at ih ⊢
    rw [List.intercalate_cons_cons, List.append_assoc, List.singleton_append,
      gather_scanFrom_line hsep hrow hraws, ih, List.cons_append]

end Rows

/-! ### Line ends -/

/-- Only a carriage return before a newline is folded away. -/
lemma foldLines_cons (c : Char) (cs : List Char) :
    foldLines (c :: cs) =
      if c = '\r' ∧ cs.head? = some '\n' then foldLines cs else c :: foldLines cs := by
  rcases cs with _ | ⟨d, cs⟩
  · rw [if_neg fun hpair => absurd hpair.2 (by simp)]
    rfl
  · rw [foldLines]
    simp only [List.head?_cons, Option.some.injEq]

/-- A character other than a carriage return is kept. -/
lemma foldLines_cons_of_ne {c : Char} (h : c ≠ '\r') (cs : List Char) :
    foldLines (c :: cs) = c :: foldLines cs := by
  rw [foldLines_cons, if_neg fun hpair => h hpair.1]

/-- Folding only leaves characters out. -/
lemma foldLines_sublist (cs : List Char) : (foldLines cs).Sublist cs := by
  induction cs with
  | nil => exact .slnil
  | cons c cs ih =>
    rw [foldLines_cons]
    split_ifs
    · exact ih.cons c
    · exact ih.cons_cons c

/-- **Nothing is folded** in a text in which no line feed follows a carriage return. -/
lemma foldLines_eq_self_iff {cs : List Char} :
    foldLines cs = cs ↔ ¬['\r', '\n'] <:+: cs := by
  induction cs with
  | nil => simp [foldLines]
  | cons c cs ih =>
    have hprefix : ['\r', '\n'] <+: c :: cs ↔ c = '\r' ∧ cs.head? = some '\n' := by
      rcases cs with _ | ⟨d, cs⟩ <;> simp [eq_comm]
    rw [foldLines_cons, List.infix_cons_iff, hprefix, not_or, ← ih]
    split_ifs with hpair
    · refine ⟨fun hsame => ?_, fun h => absurd hpair h.1⟩
      have hlength := (foldLines_sublist cs).length_le
      rw [hsame, List.length_cons] at hlength
      omega
    · rw [List.cons.injEq]
      exact ⟨fun h => ⟨hpair, h.2⟩, fun h => ⟨rfl, h.2⟩⟩

/-- Without line feeds there is nothing to fold. -/
lemma foldLines_eq_self {cs : List Char} (h : '\n' ∉ cs) : foldLines cs = cs :=
  foldLines_eq_self_iff.mpr fun hpair => h (hpair.subset (by simp))

/-- **Line ends are folded part by part**, if no pair of characters is torn apart. -/
lemma foldLines_append {cs ds : List Char} (h : cs.getLast? ≠ some '\r' ∨ ds.head? ≠ some '\n') :
    foldLines (cs ++ ds) = foldLines cs ++ foldLines ds := by
  induction cs with
  | nil => rfl
  | cons c cs ih =>
    rcases cs with _ | ⟨d, cs⟩
    · rw [List.singleton_append, foldLines_cons, if_neg, foldLines, List.singleton_append]
      rintro ⟨rfl, hhead⟩
      exact h.elim (fun hlast => hlast rfl) fun hne => hne hhead
    · rw [List.getLast?_cons_cons] at h
      rw [List.cons_append, foldLines_cons, ih h, foldLines_cons c (d :: cs)]
      have hhead : (d :: cs ++ ds).head? = (d :: cs).head? := rfl
      by_cases hpair : c = '\r' ∧ (d :: cs).head? = some '\n'
      · rw [if_pos (hhead ▸ hpair), if_pos hpair]
      · rw [if_neg (hhead ▸ hpair), if_neg hpair, List.cons_append]

/-- Doubling quotes keeps the first character. -/
lemma head?_doubleQuotes (cs : List Char) : (doubleQuotes cs).head? = cs.head? := by
  cases cs with
  | nil => rfl
  | cons c cs =>
    rw [doubleQuotes]
    split_ifs with hc
    · rw [hc]
      rfl
    · rfl

/-- Quotes are doubled before or after line ends are folded. -/
lemma foldLines_doubleQuotes (cs : List Char) :
    foldLines (doubleQuotes cs) = doubleQuotes (foldLines cs) := by
  induction cs with
  | nil => rfl
  | cons c cs ih =>
    by_cases hc : c = quote
    · subst hc
      rw [doubleQuotes, if_pos rfl, foldLines_cons_of_ne (by decide),
        foldLines_cons_of_ne (by decide), ih, foldLines_cons_of_ne (by decide), doubleQuotes,
        if_pos rfl]
    · rw [doubleQuotes, if_neg hc, foldLines_cons, head?_doubleQuotes, ih, foldLines_cons c cs]
      split_ifs
      · rfl
      · rw [doubleQuotes, if_neg hc]

/-- The quotes around a cell are no line ends. -/
lemma foldLines_enclose (cs : List Char) : foldLines (enclose cs) = enclose (foldLines cs) := by
  unfold enclose
  rw [List.cons_append, foldLines_cons_of_ne (by decide), foldLines_append (.inr (by decide)),
    foldLines_doubleQuotes]
  rfl

/-- **Line ends between parts** are folded in the parts only. -/
lemma foldLines_intercalate {c : Char} (hc : c ≠ '\r') {parts : List (List Char)}
    (h : c ≠ '\n' ∨ ∀ part ∈ parts, part.getLast? ≠ some '\r') :
    foldLines ([c].intercalate parts) = [c].intercalate (parts.map foldLines) := by
  induction parts with
  | nil => rfl
  | cons part parts ih =>
    rcases parts with _ | ⟨next, parts⟩
    · simp only [List.map_cons, List.map_nil, List.intercalate_singleton]
    · have ih := ih (h.imp_right fun hlast p hp => hlast p (List.mem_cons_of_mem _ hp))
      have htorn : part.getLast? ≠ some '\r' ∨
          ([c] ++ [c].intercalate (next :: parts)).head? ≠ some '\n' :=
        h.symm.imp (fun hlast => hlast part List.mem_cons_self) fun hne => by simpa using hne
      rw [List.intercalate_cons_cons, List.append_assoc, foldLines_append htorn,
        List.singleton_append, foldLines_cons_of_ne hc, ih]
      simp only [List.map_cons, List.intercalate_cons_cons, List.append_assoc,
        List.singleton_append]

/-- What follows a part that is not torn does not end in a carriage return, if the last part does
not. -/
lemma getLast?_intercalate {c : Char} (hc : c ≠ '\r') {parts : List (List Char)}
    (h : ∀ part ∈ parts.getLast?, part.getLast? ≠ some '\r') :
    ([c].intercalate parts).getLast? ≠ some '\r' := by
  induction parts with
  | nil => simp
  | cons part parts ih =>
    rcases parts with _ | ⟨next, parts⟩
    · rw [List.intercalate_singleton]
      exact h part rfl
    · have ih := ih h
      rw [List.intercalate_cons_cons, List.append_assoc, List.getLast?_append, List.getLast?_append]
      rcases hlast : ([c].intercalate (next :: parts)).getLast? with _ | d
      · simpa using hc
      · rw [hlast] at ih
        simpa using ih

/-! ### Tables -/

/-- **A cell with carriage returns is enclosed** when it is written, because of something else. -/
def Guarded (cell : String) : Prop := '\r' ∈ cell.toList → needsQuotes cell.toList = true

/-- The content that is read of a guarded cell. -/
def foldCell (cell : String) : String := String.ofList (foldLines cell.toList)

/-- **A cell that is kept** by writing and reading: it is guarded, and no line feed follows a
carriage return in it. -/
structure Kept (cell : String) : Prop where
  guarded : Guarded cell
  unfolded : ¬['\r', '\n'] <:+: cell.toList

/-- A cell without a carriage return is kept. -/
lemma kept_of_not_mem {cell : String} (h : '\r' ∉ cell.toList) : Kept cell :=
  ⟨fun hmem => absurd hmem h, fun hpair => h (hpair.subset (by simp))⟩

/-- Guarded cells are kept if folding leaves them as they are. -/
lemma foldCell_eq_self_iff {cell : String} :
    foldCell cell = cell ↔ ¬['\r', '\n'] <:+: cell.toList := by
  rw [← foldLines_eq_self_iff, ← String.toList_inj, foldCell, String.toList_ofList]

/-- Kept cells are as they were with their line ends folded. -/
lemma map_foldCell {row : List String} (h : ∀ cell ∈ row, Kept cell) : row.map foldCell = row :=
  (List.map_congr_left fun cell hcell => foldCell_eq_self_iff.mpr (h cell hcell).unfolded).trans
    (List.map_id row)

/-- A written cell with its line ends folded: only what is enclosed can have any. -/
lemma foldLines_writeCell (cell : String) :
    foldLines (writeCell cell) =
      if needsQuotes cell.toList || cell.toList == ['I', 'D'] then enclose (foldLines cell.toList)
      else cell.toList := by
  unfold writeCell
  dsimp only
  split_ifs with hquotes
  · exact foldLines_enclose _
  · refine foldLines_eq_self fun hline => hquotes ?_
    rw [Bool.or_eq_true]
    exact .inl (List.any_eq_true.mpr ⟨'\n', hline, rfl⟩)

/-- What is written bare has nothing in it that would be taken for the end of a cell, but for
carriage returns. -/
lemma not_special_of_bare {cell : String}
    (h : ¬(needsQuotes cell.toList || cell.toList == ['I', 'D']) = true) :
    ∀ c ∈ cell.toList, (c ≠ ',' ∧ c ≠ '\n') ∧ c ≠ quote := fun c hc => by
  simp only [Bool.or_eq_true, not_or, needsQuotes, List.any_eq_true, beq_iff_eq] at h
  simpa [not_or] using fun hor => h.1 ⟨c, hc, hor⟩

/-- A bare text without special characters is a way to write itself. -/
lemma renders_bare {cs : List Char} (h : ∀ c ∈ cs, (c ≠ ',' ∧ c ≠ '\n') ∧ c ≠ quote)
    (hreturn : '\r' ∉ cs) : Renders ',' cs cs := by
  refine .bare (fun c hc => ?_) fun hhead => (h quote (List.mem_of_mem_head? hhead)).2 rfl
  have hne : c ≠ '\r' := fun hsame => hreturn (hsame ▸ hc)
  simp [isBreak, h c hc, hne]

/-- **The text of a guarded cell** is one of the ways to write the cell with its line ends
folded. -/
lemma renders_writeCell {cell : String} (h : Guarded cell) :
    Renders ',' (foldLines cell.toList) (foldLines (writeCell cell)) := by
  rw [foldLines_writeCell]
  split_ifs with hquotes
  · exact .enclosed _
  · have hreturn : '\r' ∉ cell.toList := fun hmem =>
      hquotes (by rw [h hmem, Bool.true_or])
    have hbare := renders_bare (not_special_of_bare hquotes) hreturn
    rwa [foldLines_eq_self fun hline => (not_special_of_bare hquotes _ hline).1.2 rfl]

/-- The content of a written cell. -/
def readCell (raw : List Char) : String := String.ofList (unquote raw)

/-- A guarded cell is read as it is written, up to its line ends. -/
lemma readCell_writeCell {cell : String} (h : Guarded cell) :
    readCell (foldLines (writeCell cell)) = foldCell cell := by
  unfold readCell
  rw [(renders_writeCell h).unquote_eq]
  rfl

/-- Only the empty cell is written as nothing. -/
lemma foldLines_writeCell_eq_nil {cell : String} (h : foldLines (writeCell cell) = []) :
    cell = "" := by
  rw [foldLines_writeCell] at h
  split_ifs at h
  · simp [enclose] at h
  · exact String.toList_eq_nil_iff.mp h

/-- A cell does not end in a carriage return when it is written, if it is guarded. -/
lemma getLast?_writeCell {cell : String} (h : Guarded cell) :
    (writeCell cell).getLast? ≠ some '\r' := by
  unfold writeCell
  dsimp only
  split_ifs with hquotes
  · rw [enclose, List.getLast?_append, List.getLast?_singleton]
    exact fun hsame => absurd (Option.some.inj hsame) (by decide)
  · intro hlast
    exact hquotes (by rw [h (List.mem_of_getLast? hlast), Bool.true_or])

/-- A last row that has a cell with something in it is not lost. -/
lemma lastCells_ne_nil {raws : List (List Char)} (h : ∃ raw ∈ raws, raw ≠ []) :
    lastCells raws ≠ [] := by
  obtain ⟨raw, hraw, hne⟩ := h
  unfold lastCells
  split_ifs with hlast
  · obtain ⟨init, rfl⟩ := List.getLast?_eq_some_iff.mp hlast
    rw [List.dropLast_concat]
    rcases List.mem_append.mp hraw with hraw | hraw
    · exact List.ne_nil_of_mem hraw
    · exact absurd (List.mem_singleton.mp hraw) hne
  · exact List.ne_nil_of_mem hraw

/-- Where every cell has something in it, nothing is lost. -/
lemma lastCells_eq_self {raws : List (List Char)} (h : ∀ raw ∈ raws, raw ≠ []) :
    lastCells raws = raws := by
  unfold lastCells
  exact if_neg fun hlast => h [] (List.mem_of_getLast? hlast) rfl

/-- A line loses at most its last cell. -/
lemma length_lastCells_le (raws : List (List Char)) : (lastCells raws).length ≤ raws.length := by
  unfold lastCells
  split_ifs <;> simp

namespace Table

/-- A row of the full width is filled with nothing. -/
lemma fill_of_length {w : Nat} {row : List String} (h : row.length = w) : fill w row = row := by
  simp [fill, h]

/-- Rows of the full width are filled with nothing. -/
lemma map_fill {w : Nat} {rows : List (List String)} (h : ∀ row ∈ rows, row.length = w) :
    rows.map (fill w) = rows :=
  (List.map_congr_left fun row hrow => fill_of_length (h row hrow)).trans (List.map_id rows)

/-- Filling up gives a last row back its empty cell. -/
lemma fill_lastCells {row : List String} {raws : List (List Char)} (h : raws.map readCell = row) :
    fill row.length ((lastCells raws).map readCell) = row := by
  unfold lastCells
  split_ifs with hlast
  · obtain ⟨init, rfl⟩ := List.getLast?_eq_some_iff.mp hlast
    rw [← h, List.dropLast_concat]
    simp [fill, readCell, unquote]
  · rw [h, fill_of_length rfl]

/-- **The widest row** is within a width if all rows are. -/
lemma widest_le_iff {rows : List (List String)} {w : Nat} :
    widest rows ≤ w ↔ ∀ row ∈ rows, row.length ≤ w := by
  have hfold (a : Nat) : rows.foldl (fun w row => max w row.length) a ≤ w ↔
      a ≤ w ∧ ∀ row ∈ rows, row.length ≤ w := by
    induction rows generalizing a with
    | nil => simp
    | cons row rest ih => rw [List.foldl_cons, ih, Nat.max_le, List.forall_mem_cons, and_assoc]
  unfold widest
  rw [hfold]
  exact and_iff_right (Nat.zero_le w)

/-- No row is wider than the widest. -/
lemma length_le_widest {rows : List (List String)} {row : List String} (h : row ∈ rows) :
    row.length ≤ widest rows :=
  widest_le_iff.mp (Nat.le_refl _) row h

/-- The width of the widest row is a bound that a row reaches. -/
lemma widest_eq {rows : List (List String)} {w : Nat} (hle : ∀ row ∈ rows, row.length ≤ w)
    (hmem : ∃ row ∈ rows, row.length = w) : widest rows = w := by
  obtain ⟨row, hrow, rfl⟩ := hmem
  exact Nat.le_antisymm (widest_le_iff.mpr hle) (length_le_widest hrow)

end Table

/-- **Nothing is left of a text by trimming** if it has blanks only. -/
lemma trimChars_eq_nil_iff {cs : List Char} : trimChars cs = [] ↔ ∀ c ∈ cs, isBlank c = true := by
  unfold trimChars
  rw [List.reverse_eq_nil_iff, List.dropWhile_eq_nil_iff]
  constructor
  · intro hrest
    rw [← List.dropWhile_eq_nil_iff]
    by_contra hne
    -- what is left begins with something else than a blank
    have hhead := List.head_dropWhile_not isBlank hne
    rw [hrest _ (List.mem_reverse.mpr (List.head_mem hne))] at hhead
    exact absurd hhead (by decide)
  · intro hall c hc
    exact hall c ((List.dropWhile_sublist _).subset (List.mem_reverse.mp hc))

/-- **A text that is read under the separator asked for**: it has no byte-order mark, is not blank,
and does not name its own separator. -/
structure Plain (cs : List Char) : Prop where
  unmarked : Table.dropMark cs = cs
  given : trimChars cs ≠ []
  unnamed : cs.take 4 ≠ "sep=".toList

/-- A text is plain if it begins neither with a byte-order mark nor with the letter that announces a
separator, and has something else than blanks. -/
lemma plain_of_head {cs : List Char} (hhead : ∀ c ∈ cs.head?, c.toNat ≠ 0xFEFF ∧ c ≠ 's')
    (hgiven : ∃ c ∈ cs, isBlank c = false) : Plain cs where
  unmarked := by
    rcases cs with _ | ⟨c, cs⟩
    · rfl
    · exact if_neg (hhead c rfl).1
  given := by
    rw [Ne, trimChars_eq_nil_iff]
    intro hall
    obtain ⟨c, hc, hletter⟩ := hgiven
    rw [hall c hc] at hletter
    exact absurd hletter (by decide)
  unnamed := by
    intro hsep
    rcases cs with _ | ⟨c, cs⟩
    · exact absurd hsep (by decide)
    · exact (hhead c rfl).2 (List.cons.inj hsep).1

/-- A plain text leaves the separator that is asked for. -/
lemma Plain.chooseSeparator_eq {cs : List Char} (h : Plain cs) (asked : Char) :
    chooseSeparator (some asked) cs = (asked, cs) := by
  unfold chooseSeparator
  split
  · exact absurd rfl h.unnamed
  · rfl

/-! ### Written tables -/

/-- The written cells of a row with their line ends folded. -/
def foldedCells (row : List String) : List (List Char) :=
  row.map fun cell => foldLines (writeCell cell)

/-- A written row with its line ends folded. -/
def foldedRow (row : List String) : List Char := [','].intercalate (foldedCells row)

/-- **A written text with its line ends folded**, if the last cell of each row is guarded. -/
lemma foldLines_write {rows : List (List String)}
    (h : ∀ row ∈ rows, ∀ cell ∈ row.getLast?, Guarded cell) :
    foldLines (write rows).toList = ['\n'].intercalate (rows.map foldedRow) := by
  rw [write, String.toList_ofList, foldLines_intercalate (by decide), List.map_map]
  · congr 1
    refine List.map_congr_left fun row _ => ?_
    rw [Function.comp_apply, writeRow, foldLines_intercalate (by decide) (.inl (by decide)),
      List.map_map]
    rfl
  · refine .inr (List.forall_mem_map.mpr fun row hrow => ?_)
    refine getLast?_intercalate (by decide) fun raw hraw => ?_
    rw [List.getLast?_map] at hraw
    obtain ⟨cell, hcell, rfl⟩ := Option.map_eq_some_iff.mp hraw
    exact getLast?_writeCell (h row hrow cell hcell)

/-- The contents of a written row are its cells. -/
lemma map_readCell_writeCell {row : List String} (h : ∀ cell ∈ row, Guarded cell) :
    (foldedCells row).map readCell = row.map foldCell := by
  rw [foldedCells, List.map_map]
  exact List.map_congr_left fun cell hcell => readCell_writeCell (h cell hcell)

/-- **The rows of a written text** are those that have been written, but for an empty cell at the
end. -/
lemma grid_write {init : List (List String)} {last : List String}
    (hne : ∀ row ∈ init ++ [last], row ≠ [])
    (hguarded : ∀ row ∈ init ++ [last], ∀ cell ∈ row, Guarded cell)
    (hlast : ∃ cell ∈ last, cell ≠ "") :
    grid ',' (write (init ++ [last])).toList = init.map (List.map foldCell) ++
      [(lastCells (foldedCells last)).map readCell] := by
  have hwritten (row : List String) (hrow : row ∈ init ++ [last]) :
      foldedCells row ≠ [] ∧ ∀ raw ∈ foldedCells row, ∃ cs, Renders ',' cs raw := by
    refine ⟨by simpa [foldedCells] using hne row hrow, List.forall_mem_map.mpr fun cell hcell => ?_⟩
    exact ⟨_, renders_writeCell (hguarded row hrow cell hcell)⟩
  have hkept : lastCells (foldedCells last) ≠ [] := by
    obtain ⟨cell, hcell, hgiven⟩ := hlast
    exact lastCells_ne_nil
      ⟨_, List.mem_map_of_mem hcell, mt foldLines_writeCell_eq_nil hgiven⟩
  have htext : foldLines (write (init ++ [last])).toList = ['\n'].intercalate
      ((init.map foldedCells ++ [foldedCells last]).map [','].intercalate) := by
    rw [foldLines_write fun row hrow cell hcell =>
      hguarded row hrow cell (List.mem_of_getLast? hcell), List.map_append, List.map_append,
      List.map_map]
    rfl
  have hinit (row : List String) (hrow : row ∈ init) : row ∈ init ++ [last] :=
    List.mem_append_left _ hrow
  obtain ⟨hlastne, hlastwritten⟩ := hwritten last (by simp)
  unfold grid
  rw [htext, gather_scan_lines ⟨by decide, by decide⟩
    (List.forall_mem_map.mpr fun row hrow => hwritten row (hinit row hrow)) hlastne
    hlastwritten, if_neg hkept, List.map_append, List.map_singleton, List.map_map]
  congr 1
  exact List.map_congr_left fun row hrow =>
    map_readCell_writeCell (hguarded row (hinit row hrow))

namespace Table

/-- **A text with a byte-order mark** or without one is read as the rows of what follows the mark,
if that is plain. -/
lemma ofText_of_plain_dropMark {content : String} (h : Plain (dropMark content.toList))
    (d : Delimiter) : ofText content d = ofGrid (grid d.char (dropMark content.toList)) := by
  unfold ofText read
  dsimp only
  rw [if_neg h.given, h.chooseSeparator_eq]

/-- A plain text is read as its rows. -/
lemma ofText_of_plain {content : String} (h : Plain content.toList) (d : Delimiter) :
    ofText content d = ofGrid (grid d.char content.toList) := by
  have hread := ofText_of_plain_dropMark (h.unmarked.symm ▸ h) d
  rwa [h.unmarked] at hread

/-- Rows with content under a header are a table. -/
lemma ofGrid_of_fill {rows : List (List String)} {columns : List String}
    {records : List (List String)} (h : rows.map (fill (widest rows)) = columns :: records)
    (hcontent : ∀ row ∈ columns :: records, hasContent row = true) :
    ofGrid rows = ⟨columns, records⟩ := by
  unfold ofGrid
  rw [h, List.filter_eq_self.mpr hcontent]

/-- Only the empty cell has nothing to fold. -/
lemma foldCell_eq_empty {cell : String} : foldCell cell = "" ↔ cell = "" := by
  unfold foldCell
  rw [String.ofList_eq_empty_iff, ← String.toList_eq_nil_iff]
  rcases cell.toList with _ | ⟨c, cs⟩
  · exact ⟨fun _ => rfl, fun _ => rfl⟩
  · refine ⟨fun hnil => ?_, fun hnil => absurd hnil (by simp)⟩
    rw [foldLines_cons] at hnil
    split_ifs at hnil with hpair
    obtain ⟨rest, hrest⟩ := List.head?_eq_some_iff.mp hpair.2
    rw [hrest, foldLines_cons_of_ne (by decide)] at hnil
    exact absurd hnil (by simp)

/-- Folding line ends empties no cell. -/
lemma hasContent_map_foldCell (row : List String) :
    hasContent (row.map foldCell) = hasContent row := by
  unfold hasContent
  rw [List.any_map, Bool.eq_iff_iff, List.any_eq_true, List.any_eq_true]
  simp only [Function.comp_apply, bne_iff_ne, ne_eq, foldCell_eq_empty]

/-- **A table that has been written is read back** with its line ends folded, if its cells are
guarded. The last row may end in an empty cell, which the text does not show.

**Proof sketch.** Every written cell is read to its end, so that each line is a row of the written
cells, whose contents are the cells. Only an empty cell at the end of the text is not read; its row
is filled up again to the width of the header. -/
theorem ofText_write_of_guarded {columns : List String} {records : List (List String)}
    (hne : columns ≠ []) (hnamed : ∀ cell ∈ columns, cell ≠ "")
    (hwidth : ∀ record ∈ records, record.length = columns.length)
    (hcontent : ∀ record ∈ records, hasContent record = true)
    (hguarded : ∀ row ∈ columns :: records, ∀ cell ∈ row, Guarded cell)
    (hplain : Plain (write (columns :: records)).toList) :
    ofText (write (columns :: records)) .comma =
      ⟨columns.map foldCell, records.map (List.map foldCell)⟩ := by
  have hgiven : hasContent columns = true := by
    obtain ⟨cell, hcell⟩ := List.exists_mem_of_ne_nil _ hne
    exact List.any_eq_true.mpr ⟨cell, hcell, by simpa using hnamed cell hcell⟩
  have hall : ∀ row ∈ columns :: records, hasContent row = true :=
    List.forall_mem_cons.mpr ⟨hgiven, hcontent⟩
  have hfolded : ∀ row ∈ (columns :: records).map (List.map foldCell), hasContent row = true :=
    List.forall_mem_map.mpr fun row hrow => (hasContent_map_foldCell row).trans (hall row hrow)
  have hlengths : ∀ row ∈ columns :: records, row.length = columns.length :=
    List.forall_mem_cons.mpr ⟨rfl, hwidth⟩
  have hrowne : ∀ row ∈ columns :: records, row ≠ [] := fun row hrow hnil => by
    have hlength := hlengths row hrow
    rw [hnil, List.length_nil] at hlength
    exact hne (List.length_eq_zero_iff.mp hlength.symm)
  have hnonempty (row : List String) (hrow : row ∈ columns :: records) :
      ∃ cell ∈ row, cell ≠ "" := by
    obtain ⟨cell, hcell, hcontent⟩ := List.any_eq_true.mp (hall row hrow)
    exact ⟨cell, hcell, by simpa using hcontent⟩
  rw [ofText_of_plain hplain]
  rcases records.eq_nil_or_concat with rfl | ⟨init, last, hsplit⟩
  · -- the header is the last line, and its last cell is not empty
    have hlast : lastCells (foldedCells columns) = foldedCells columns :=
      lastCells_eq_self (List.forall_mem_map.mpr fun cell hcell =>
        mt foldLines_writeCell_eq_nil (hnamed cell hcell))
    have hgrid := @grid_write [] columns hrowne hguarded (hnonempty columns List.mem_cons_self)
    rw [hlast, map_readCell_writeCell (hguarded columns List.mem_cons_self), List.map_nil,
      List.nil_append, List.nil_append] at hgrid
    refine ofGrid_of_fill ?_ hfolded
    rw [Delimiter.char, hgrid, widest_eq (w := columns.length) (by simp) (by simp),
      List.map_singleton, fill_of_length (by simp)]
    rfl
  · -- the last record may lose its last cell, and is then filled up to the width of the header
    rw [List.concat_eq_append] at hsplit
    subst hsplit
    rw [← List.cons_append] at hlengths hrowne hguarded hnonempty ⊢
    have hlast : last ∈ (columns :: init) ++ [last] := by simp
    have hgrid := grid_write hrowne hguarded (hnonempty last hlast)
    have hlength : (last.map foldCell).length = columns.length := by
      rw [List.length_map, hlengths last hlast]
    refine ofGrid_of_fill ?_ hfolded
    rw [Delimiter.char, hgrid, widest_eq (w := columns.length) ?_ ⟨columns.map foldCell, by simp,
      by simp⟩, List.map_append, List.map_singleton]
    · rw [map_fill (List.forall_mem_map.mpr fun row hrow => ?_), ← hlength,
        fill_lastCells (map_readCell_writeCell (hguarded last hlast))]
      · simp only [List.map_cons, List.map_append, List.map_nil, List.cons_append]
      · rw [List.length_map, hlengths row (List.mem_append_left _ hrow)]
    · intro row hrow
      rcases List.mem_append.mp hrow with hrow | hrow
      · obtain ⟨row', hrow', rfl⟩ := List.mem_map.mp hrow
        exact Nat.le_of_eq
          ((List.length_map _).trans (hlengths row' (List.mem_append_left _ hrow')))
      · rw [List.mem_singleton.mp hrow, List.length_map, ← hlengths last hlast]
        exact Nat.le_trans (length_lastCells_le _) (Nat.le_of_eq (List.length_map _))

/-- **A table that has been written is read back**, if its cells are kept. -/
theorem ofText_write {columns : List String} {records : List (List String)} (hne : columns ≠ [])
    (hnamed : ∀ cell ∈ columns, cell ≠ "")
    (hwidth : ∀ record ∈ records, record.length = columns.length)
    (hcontent : ∀ record ∈ records, hasContent record = true)
    (hkept : ∀ row ∈ columns :: records, ∀ cell ∈ row, Kept cell)
    (hplain : Plain (write (columns :: records)).toList) :
    ofText (write (columns :: records)) .comma = ⟨columns, records⟩ := by
  rw [ofText_write_of_guarded hne hnamed hwidth hcontent
    (fun row hrow cell hcell => (hkept row hrow cell hcell).guarded) hplain,
    map_foldCell (hkept columns List.mem_cons_self)]
  congr 1
  exact (List.map_congr_left fun record hrecord =>
    map_foldCell (hkept record (List.mem_cons_of_mem _ hrecord))).trans (List.map_id records)

end Table

end QuizOverrides.Csv
