import QuizOverrides.Text.Blank

set_option autoImplicit false

/-!
# Environment files

A file of settings holds lines such as `LIMIT=20`, `export HOST: api` or `NAME='a value' # note`.
Whatever is no such line is passed over. A value may be quoted, and may then run over several lines.

## Main definitions

* `QuizOverrides.EnvFile` — a file of settings.
* `QuizOverrides.EnvFile.assignment?` — the assignment at the start of a text.
* `QuizOverrides.EnvFile.assignments` — the assignments of a text.
* `QuizOverrides.EnvFile.plainValue` — what an assigned text stands for.
* `QuizOverrides.EnvFile.entries` — the names and values of a file.

## Design

A line can be divided in several ways, of which the first in the order of preference counts: as many
blanks and characters of a name as possible, a quoted value before a bare one, a bare value as long
as possible. Each part of a line is therefore a function of what follows it: it offers the rests of
its ways in that order, and the first rest that the following parts accept decides.
-/

namespace QuizOverrides

open Text

/-- **A file of settings**, by its name and its text. -/
structure EnvFile where
  name : String
  content : String
deriving DecidableEq, Repr

namespace EnvFile

/-! ## Ways to divide a text -/

section

variable {α : Type}

/-- Takes characters of a class, as many as possible first. -/
def longestRun (p : Char → Bool) (next : List Char → Option α) : List Char → Option α
  | [] => next []
  | c :: cs => if p c then longestRun p next cs <|> next (c :: cs) else next (c :: cs)

/-- Takes characters of a class, as few as possible first. -/
def shortestRun (p : Char → Bool) (next : List Char → Option α) : List Char → Option α
  | [] => next []
  | c :: cs => next (c :: cs) <|> if p c then shortestRun p next cs else none

/-- Takes characters of a class as `run` does, but at least one. -/
def atLeastOne (run : (Char → Bool) → (List Char → Option α) → List Char → Option α)
    (p : Char → Bool) (next : List Char → Option α) : List Char → Option α
  | [] => none
  | c :: cs => if p c then run p next cs else none

/-- The characters that were taken from a text to leave a rest. -/
def taken (cs rest : List Char) : List Char :=
  cs.take (cs.length - rest.length)

/-! ## The parts of a line -/

/-- Line ends: line feed, carriage return, and the line and paragraph separators. -/
def isLineEnd (c : Char) : Bool :=
  c == '\n' || c == '\r' || c.toNat == 0x2028 || c.toNat == 0x2029

/-- Characters of a name: letters and digits of ASCII, the underscore, the full stop and the
hyphen. -/
def isNameChar (c : Char) : Bool :=
  c.isAlphanum || c == '_' || c == '.' || c == '-'

/-- The quotes: single, double and backward. -/
def isQuote (c : Char) : Bool :=
  c == '\x27' || c == '\x22' || c == '\x60'

/-- Characters of a bare value: all up to a number sign or the end of the line. -/
def isBareChar (c : Char) : Bool :=
  c != '#' && c != '\r' && c != '\n'

/-- The word that may stand before a name, with the blanks after it, or nothing. -/
def exportWord (next : List Char → Option α) (cs : List Char) : Option α :=
  match cs with
  | 'e' :: 'x' :: 'p' :: 'o' :: 'r' :: 't' :: rest =>
    atLeastOne longestRun isBlank next rest <|> next cs
  | _ => next cs

/-- What stands between a name and its value: an equals sign, or a colon and a blank. -/
def assignSign (next : List Char → Option α) (cs : List Char) : Option α :=
  let equals : List Char → Option α
    | '=' :: rest => shortestRun isBlank next rest
    | _ => none
  let colon : Option α :=
    match cs with
    | ':' :: rest => atLeastOne shortestRun isBlank next rest
    | _ => none
  longestRun isBlank equals cs <|> colon

/-- The rest of a quoted value, up to and with the closing quote. A quote after a backslash is
passed over if possible. -/
def closeQuote (q : Char) (next : List Char → Option α) : List Char → Option α
  | [] => none
  | [c] => if c = q then next [] else none
  | c :: d :: cs =>
    (if c = '\\' ∧ d = q then closeQuote q next cs else none)
      <|> if c = q then next (d :: cs) else closeQuote q next (d :: cs)

/-- A quoted value, with the blanks before it. -/
def quotedValue (q : Char) (next : List Char → Option α) : List Char → Option α :=
  longestRun isBlank fun
    | c :: cs => if c = q then closeQuote q next cs else none
    | [] => none

/-- A value, quoted or bare or missing; `next` has the value as it is written and the rest. -/
def assignedText (next : List Char → List Char → Option α) (cs : List Char) : Option α :=
  let valued (rest : List Char) : Option α := next (taken cs rest) rest
  quotedValue '\x27' valued cs <|> quotedValue '\x22' valued cs <|> quotedValue '\x60' valued cs
    <|> atLeastOne longestRun isBareChar valued cs <|> next [] cs

/-- The rest at the end of a line. -/
def lineEnd? (cs : List Char) : Option (List Char) :=
  match cs with
  | [] => some []
  | c :: _ => if isLineEnd c then some cs else none

/-- The end of a line, with blanks and a note before it. -/
def lineTail : List Char → Option (List Char) :=
  longestRun isBlank fun cs =>
    (match cs with
      | '#' :: rest => longestRun (fun c => !isLineEnd c) lineEnd? rest
      | _ => none)
    <|> lineEnd? cs

end

/-! ## Assignments -/

/-- **An assignment at the start of a text**: the name, the value as it is written, and the rest of
the text, which begins at the end of the line. -/
def assignment? : List Char → Option ((List Char × List Char) × List Char) :=
  longestRun isBlank <| exportWord fun named =>
    atLeastOne longestRun isNameChar
      (fun rest => assignSign
        (assignedText fun value after => (lineTail after).map ((taken named rest, value), ·)) rest)
      named

/-- The assignments of a text of which `skip` characters have been read already; `atStart` says
whether the text begins a line. -/
def assignmentsFrom (skip : Nat) (atStart : Bool) : List Char → List (List Char × List Char)
  | [] => []
  | c :: cs =>
    match skip with
    | skip + 1 => assignmentsFrom skip (isLineEnd c) cs
    | 0 =>
      match if atStart then assignment? (c :: cs) else none with
      | some (found, rest) => found :: assignmentsFrom (cs.length - rest.length) (isLineEnd c) cs
      | none => assignmentsFrom 0 (isLineEnd c) cs

/-- **The assignments of a text**, in order. Each is sought from the end of the last one on. -/
def assignments (cs : List Char) : List (List Char × List Char) :=
  assignmentsFrom 0 true cs

/-! ## Values -/

/-- What stands before the last quote `q` that ends a line, and what follows that quote. -/
def lastQuote? (q : Char) : List Char → Option (List Char × List Char)
  | [] => none
  | c :: cs =>
    match lastQuote? q cs with
    | some (inner, rest) => some (c :: inner, rest)
    | none => if c = q ∧ (lineEnd? cs).isSome then some ([], cs) else none

/-- What follows the last quote is shorter than the text. -/
theorem length_of_lastQuote? {q : Char} {cs inner rest : List Char}
    (h : lastQuote? q cs = some (inner, rest)) : rest.length < cs.length := by
  induction cs generalizing inner with
  | nil => simp [lastQuote?] at h
  | cons c cs ih =>
    unfold lastQuote? at h
    split at h
    · rename_i inner' rest' h'
      simp only [Option.some.injEq, Prod.mk.injEq] at h
      obtain ⟨-, rfl⟩ := h
      exact Nat.lt_succ_of_lt (ih h')
    · split at h
      · simp only [Option.some.injEq, Prod.mk.injEq] at h
        obtain ⟨-, rfl⟩ := h
        exact Nat.lt_succ_self _
      · cases h

/-- **The text without its quotes**: a quote that begins a line is dropped together with the last
quote of its kind that ends one. -/
def dropQuotes (atStart : Bool) : List Char → List Char
  | [] => []
  | c :: cs =>
    if atStart ∧ isQuote c then
      match _closed : lastQuote? c cs with
      | some (inner, rest) => inner ++ dropQuotes false rest
      | none => c :: dropQuotes false cs
    else c :: dropQuotes (isLineEnd c) cs
termination_by cs => cs.length
decreasing_by
  all_goals first
    | exact Nat.lt_succ_of_lt (length_of_lastQuote? ‹_›)
    | exact Nat.lt_succ_self _

/-- The text with a backslash and the letter `n` or `r` made a line feed or a carriage return. -/
def lineEscapes : List Char → List Char
  | [] => []
  | [c] => [c]
  | c :: d :: cs =>
    if c = '\\' ∧ d = 'n' then '\n' :: lineEscapes cs
    else if c = '\\' ∧ d = 'r' then '\r' :: lineEscapes cs
    else c :: lineEscapes (d :: cs)

/-- **The value that an assigned text stands for**: without the blanks around it and without its
quotes; in a text that begins with a double quote the escapes of line ends are replaced. -/
def plainValue (cs : List Char) : List Char :=
  let cs := trimChars cs
  let value := dropQuotes true cs
  if cs.head? = some '\x22' then lineEscapes value else value

/-! ## Files -/

/-- The text with every carriage return made a line feed, and one of each pair of them. -/
def unifyLines : List Char → List Char
  | [] => []
  | [c] => if c = '\r' then ['\n'] else [c]
  | c :: d :: cs =>
    if c = '\r' ∧ d = '\n' then '\n' :: unifyLines cs
    else if c = '\r' then '\n' :: unifyLines (d :: cs)
    else c :: unifyLines (d :: cs)

/-- **The names and values of a file**, in the order of its lines. -/
def entries (file : EnvFile) : List (String × String) :=
  (assignments (unifyLines file.content.toList)).map fun (name, value) =>
    (String.ofList name, String.ofList (plainValue value))

end EnvFile

end QuizOverrides
