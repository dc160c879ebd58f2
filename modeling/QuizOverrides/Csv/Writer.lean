import QuizOverrides.Csv.Scan

set_option autoImplicit false

/-!
# Writing delimited text

Rows of cells are written with commas between cells and line feeds between rows. A cell that holds a
comma, a line feed or a double quote is enclosed in quotes with its own quotes doubled; the cell
`ID` is enclosed as well, since a file that begins with these letters is taken for another format.

## Main definitions

* `QuizOverrides.Csv.writeCell` — the written form of a cell.
* `QuizOverrides.Csv.write` — the text of rows.
-/

namespace QuizOverrides.Csv

/-- Every quote written twice. -/
def doubleQuotes : List Char → List Char
  | [] => []
  | c :: cs => if c = quote then quote :: quote :: doubleQuotes cs else c :: doubleQuotes cs

/-- A cell between quotes, its own quotes doubled. -/
def enclose (cs : List Char) : List Char :=
  quote :: doubleQuotes cs ++ [quote]

/-- The cell has to be enclosed to be read back. -/
def needsQuotes (cs : List Char) : Bool :=
  cs.any fun c => c == ',' || c == '\n' || c == quote

/-- **The written form of a cell.** -/
def writeCell (cell : String) : List Char :=
  let cs := cell.toList
  if needsQuotes cs || cs == ['I', 'D'] then enclose cs else cs

/-- The written form of a row. -/
def writeRow (row : List String) : List Char :=
  [','].intercalate (row.map writeCell)

/-- **The text of rows**, without a line end after the last. -/
def write (rows : List (List String)) : String :=
  String.ofList (['\n'].intercalate (rows.map writeRow))

end QuizOverrides.Csv
