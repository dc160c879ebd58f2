import QuizOverrides.Csv.Delimiter

set_option autoImplicit false

/-!
# Scanning delimited text

A text of rows and cells is cut into cells in one pass. A cell that begins with a double quote may
hold separators and line ends between quotes; in any other cell a quote is an ordinary character.
Each cell is kept with what ended it, and the rows are gathered from that.

## Main definitions

* `QuizOverrides.Csv.foldLines` — the text with each pair of carriage return and line feed made one
  line feed.
* `QuizOverrides.Csv.scan` — the cells of a text with their ends.
* `QuizOverrides.Csv.gather` — the rows of those cells.
* `QuizOverrides.Csv.unquote` — the content of a cell.
* `QuizOverrides.Csv.grid` — the rows of a text.

## Design

Scanning keeps the cells as they are written. Taking the quotes off afterwards, by the first and the
last character only, is a separate step, since a cell may end before its quotes are closed.
-/

namespace QuizOverrides.Csv

/-- The double quote. -/
def quote : Char := '\x22'

/-- **Line ends**: every carriage return that a line feed follows is dropped. -/
def foldLines : List Char → List Char
  | [] => []
  | [c] => [c]
  | c :: d :: cs => if c = '\r' ∧ d = '\n' then foldLines (d :: cs) else c :: foldLines (d :: cs)

/-- **What ended a cell**: a separator, a line end, or the end of the text. -/
inductive CellEnd where
  | separator
  | line
  | text
deriving DecidableEq, Repr

/-- A cell as it is written, and what ended it. -/
structure RawCell where
  chars : List Char
  ending : CellEnd
deriving DecidableEq, Repr

/-- **The state within a cell**: nothing of it has been read, it is a bare cell, or it began with a
quote, and then whether the quotes are open. -/
inductive CellState where
  | fresh
  | bare
  | quoted (isOpen : Bool)
deriving DecidableEq, Repr

namespace CellState

/-- The state after a quote. -/
def afterQuote : CellState → CellState
  | fresh => quoted true
  | bare => bare
  | quoted isOpen => quoted (!isOpen)

/-- The state after any other character of the cell. -/
def afterChar : CellState → CellState
  | fresh => bare
  | bare => bare
  | quoted isOpen => quoted isOpen

end CellState

/-- The character ends a cell: it is the separator or a line end. -/
def isBreak (sep c : Char) : Bool :=
  c == sep || c == '\n' || c == '\r'

/-- What a breaking character is; a line end that serves as the separator separates cells. -/
def breakEnd (sep c : Char) : CellEnd :=
  if c == sep then .separator else .line

/-- **Scanning**, with the characters of the current cell in reverse. A quote is never a break,
and within open quotes nothing is. A cell that is empty at the end of the text is no cell. -/
def scanFrom (sep : Char) (state : CellState) (cell : List Char) : List Char → List RawCell
  | [] => if cell.isEmpty then [] else [⟨cell.reverse, .text⟩]
  | c :: cs =>
    if c = quote then scanFrom sep state.afterQuote (c :: cell) cs
    else if isBreak sep c = true ∧ state ≠ .quoted true then
      ⟨cell.reverse, breakEnd sep c⟩ :: scanFrom sep .fresh [] cs
    else scanFrom sep state.afterChar (c :: cell) cs

/-- **The cells of a text**, in order. -/
def scan (sep : Char) (cs : List Char) : List RawCell :=
  scanFrom sep .fresh [] cs

/-- **The rows of cells**: a separator keeps to the row, any other end closes it. -/
def gather : List RawCell → List (List (List Char))
  | [] => []
  | ⟨chars, .separator⟩ :: rest =>
    match gather rest with
    | [] => [[chars]]
    | row :: rows => (chars :: row) :: rows
  | ⟨chars, _⟩ :: rest => [chars] :: gather rest

/-- Each pair of quotes made one. -/
def singleQuotes : List Char → List Char
  | [] => []
  | [c] => [c]
  | c :: d :: cs =>
    if c = quote ∧ d = quote then quote :: singleQuotes cs else c :: singleQuotes (d :: cs)

/-- **The content of a cell**: if the first and the last character are quotes, without these two
and with each pair of quotes between them made one; a lone quote is both. -/
def unquote (cs : List Char) : List Char :=
  if cs.head? = some quote ∧ cs.getLast? = some quote then singleQuotes cs.tail.dropLast else cs

/-- **The rows of a text** under a separator, cell contents in the order written. -/
def grid (sep : Char) (cs : List Char) : List (List String) :=
  (gather (scan sep (foldLines cs))).map fun row =>
    row.map fun cell => String.ofList (unquote cell)

end QuizOverrides.Csv
