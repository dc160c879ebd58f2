import QuizOverrides.Payload.Fault
import QuizOverrides.Payload.Innate

set_option autoImplicit false

/-!
# Cell delimiters

The characters that may separate the cells of an uploaded file, and the names under which a request
chooses one. A request that is not checked may give anything in the place of a name; then the
separator is left to be guessed, unless what the request gives cannot be used at all.

## Main definitions

* `QuizOverrides.Csv.Delimiter` — the delimiters.
* `QuizOverrides.Csv.Delimiter.char` and `QuizOverrides.Csv.Delimiter.name`.
* `QuizOverrides.Csv.DelimiterChoice` — what a request gives as its delimiter.
* `QuizOverrides.Csv.DelimiterChoice.separator` — the separator that a choice asks for.
-/

namespace QuizOverrides.Csv

/-- **A delimiter** that a request may choose. -/
inductive Delimiter where
  | comma
  | semicolon
  | colon
  | tab
deriving DecidableEq, Repr, Inhabited

namespace Delimiter

/-- All delimiters, in the order in which they are listed to users. -/
def all : List Delimiter := [comma, semicolon, colon, tab]

/-- The name of a delimiter in requests. -/
def name : Delimiter → String
  | comma => "comma"
  | semicolon => "semicolon"
  | colon => "colon"
  | tab => "tab"

/-- The character itself. -/
def char : Delimiter → Char
  | comma => ','
  | semicolon => ';'
  | colon => ':'
  | tab => '\t'

/-- The delimiter of a name. -/
def ofName? (s : String) : Option Delimiter :=
  all.find? fun d => d.name == s

/-- Every delimiter is found by its name. -/
theorem ofName?_name (d : Delimiter) : ofName? d.name = some d := by
  cases d <;> decide

end Delimiter

/-! ## Choices -/

/-- **What a request gives as its delimiter**: the name of one, or anything else. -/
inductive DelimiterChoice where
  | named (delimiter : Delimiter)
  | other (given : Payload)
deriving Repr

/-- The default delimiter is the comma. -/
instance : Inhabited DelimiterChoice := ⟨.named .comma⟩

/-- **What a choice asks for**: a character, or none in particular, or something that is no
character; and a choice without a text asks for nothing at all. -/
inductive Separator where
  | char (c : Char)
  | guessed
  | noChar
  | noText
deriving DecidableEq, Repr

namespace DelimiterChoice

/-- The choice that a value makes. -/
def ofPayload : Payload → DelimiterChoice
  | .text name =>
    match Delimiter.ofName? name with
    | some d => named d
    | none => other (.text name)
  | p => other p

/-- The choice of a value that may be left out, a comma without one. -/
def ofOption : Option Payload → DelimiterChoice
  | none => named .comma
  | some p => ofPayload p

/-- **The choice of a form**, for which null is as good as nothing. -/
def ofForm : Option Payload → DelimiterChoice
  | some .null => named .comma
  | given => ofOption given

/-- **The separator that a choice asks for**, by the text of what is given: that of the delimiter of
this name, none in particular if there is no such delimiter, and no character if the name is that of
an innate part of the table of delimiters. -/
def separator : DelimiterChoice → Separator
  | named d => .char d.char
  | other given =>
    match given.text? with
    | .error _ => .noText
    | .ok name =>
      match Delimiter.ofName? name, Innate.find? name with
      | some d, _ => .char d.char
      | none, some _ => .noChar
      | none, none => .guessed

/-- The choice as it was given. -/
def payload : DelimiterChoice → Payload
  | named d => .text d.name
  | other given => given

end DelimiterChoice

end QuizOverrides.Csv
