import QuizOverrides.Csv.Scan
import QuizOverrides.Text.Blank
import QuizOverrides.Text.Units

set_option autoImplicit false

/-!
# Tables of an uploaded text

An uploaded text is read as a table: all rows are filled up to the widest, rows without content are
left out, the first row left is the header and the others are records. A text may name its own
separator in a first line `sep=`.

## Main definitions

* `QuizOverrides.Csv.Table` — a header and records.
* `QuizOverrides.Csv.Table.ofText` — the table of a text.
* `QuizOverrides.Csv.Table.ofChoice` — the table of a text under any choice of a delimiter.
* `QuizOverrides.Csv.chooseSeparator` — the separator of a text and the text after the line that
  names it.
* `QuizOverrides.Csv.Cursor` — a table and the records not yet handed out.
-/

namespace QuizOverrides.Csv

open Text

/-! ## The separator -/

/-- The separators that are looked for when a text announces one without naming it, the preferred
first. -/
def guessable : List Char := [',', '\t', ';', '|']

/-- The characters outside double quotes, every quote changing sides. -/
def outsideQuotes (inside : Bool) : List Char → List Char
  | [] => []
  | c :: cs =>
    if c = quote then outsideQuotes (!inside) cs
    else if inside then outsideQuotes inside cs
    else c :: outsideQuotes inside cs

/-- The characters that begin within the first `n` code units. -/
def takeUnits (n : Nat) : List Char → List Char
  | [] => []
  | c :: cs => if n = 0 then [] else c :: takeUnits (n - (unitsOf c).length) cs

/-- **The guessed separator**: the one that occurs most often outside quotes among the first 1024
units, of equals the preferred; a comma if none occurs. -/
def guessSeparator (cs : List Char) : Char :=
  let seen := outsideQuotes false (takeUnits 1024 cs)
  guessable.foldl (fun best c => if seen.count best < seen.count c then c else best) ','

/-- **The separator of a text.** A first line `sep=` with one unit after it names the separator and
is taken off; if the line is anything else, the separator is guessed and nothing is taken off.
Without `sep=` it is the separator asked for, or the guessed one if none is asked for. -/
def chooseSeparator (asked : Option Char) (cs : List Char) : Char × List Char :=
  match cs with
  | 's' :: 'e' :: 'p' :: '=' :: rest =>
    match rest with
    | c :: '\r' :: '\n' :: body =>
      if (unitsOf c).length = 1 then (c, body) else (guessSeparator cs, cs)
    | c :: d :: body =>
      if (unitsOf c).length = 1 ∧ (d = '\r' ∨ d = '\n') then (c, body) else (guessSeparator cs, cs)
    | _ => (guessSeparator cs, cs)
  | _ => (asked.getD (guessSeparator cs), cs)

/-! ## Tables -/

/-- **A table**: the header and the records under it. -/
structure Table where
  columns : List String
  records : List (List String)
deriving DecidableEq, Repr

namespace Table

/-- The table of nothing. -/
def empty : Table := ⟨[], []⟩

/-- The width of the widest row. -/
def widest (rows : List (List String)) : Nat :=
  rows.foldl (fun w row => max w row.length) 0

/-- A row filled up with empty cells. -/
def fill (width : Nat) (row : List String) : List String :=
  row ++ List.replicate (width - row.length) ""

/-- A row has a cell that is not empty. -/
def hasContent (row : List String) : Bool :=
  row.any fun cell => cell != ""

/-- **The table of rows**: all filled up to the widest, those with content, the first as header. -/
def ofGrid (rows : List (List String)) : Table :=
  match (rows.map (fill (widest rows))).filter hasContent with
  | [] => empty
  | columns :: records => ⟨columns, records⟩

/-- The text without one byte-order mark at its start. -/
def dropMark : List Char → List Char
  | [] => []
  | c :: cs => if c.toNat = 0xFEFF then cs else c :: cs

/-- The text has nothing but blanks after a byte-order mark. -/
def isBlank (content : String) : Bool := trimChars (dropMark content.toList) = []

/-- The text names its own separator, or seems to. -/
def namesSeparator (content : String) : Bool := (dropMark content.toList).take 4 == "sep=".toList

/-- The table of a text under the separator asked for, if one is. A text of blanks only is empty. -/
def read (content : String) (asked : Option Char) : Table :=
  let text := dropMark content.toList
  if trimChars text = [] then empty
  else
    let (sep, body) := chooseSeparator asked text
    ofGrid (grid sep body)

/-- **The table of a text** with a delimiter. -/
def ofText (content : String) (delimiter : Delimiter) : Table :=
  read content (some delimiter.char)

/-- **The table of a text under a choice** of a delimiter, or the fault of the choice. The choice
does not matter for a text of blanks, and what is no character does not matter for a text that names
its own separator. -/
def ofChoice (content : String) (choice : DelimiterChoice) : Except ValueFault Table :=
  match choice.separator with
  | .char c => .ok (read content (some c))
  | .guessed => .ok (read content none)
  | .noChar =>
    if isBlank content || namesSeparator content then .ok (read content none)
    else .error (.noOperation "sep.charCodeAt")
  | .noText => if isBlank content then .ok empty else .error .noText

/-- The choice of a delimiter by its name is the delimiter. -/
theorem ofChoice_named (content : String) (d : Delimiter) :
    ofChoice content (.named d) = .ok (ofText content d) := rfl

end Table

/-! ## Reading record by record -/

/-- **A cursor**: a table and the records of it that are still to come. -/
structure Cursor where
  table : Table
  rest : List (List String)
deriving DecidableEq, Repr

namespace Cursor

/-- The cursor before the first record. -/
def ofTable (t : Table) : Cursor := ⟨t, t.records⟩

/-- The cursor set back before the first record. -/
def rewind (c : Cursor) : Cursor := ofTable c.table

/-- The next record, if there is one, and the cursor after it. -/
def next (c : Cursor) : Option (List String) × Cursor :=
  match c.rest with
  | [] => (none, c)
  | r :: rest => (some r, ⟨c.table, rest⟩)

end Cursor

end QuizOverrides.Csv
