import QuizOverrides.Number.Binary64
import QuizOverrides.Payload.Basic

set_option autoImplicit false

/-!
# Payloads as text

A payload is shown in two ways: as plain text in messages, and as the text of a data format, in
which texts are quoted and escaped, in log lines.

## Main definitions

* `QuizOverrides.Payload.plainText` — the text of a payload within a message.
* `QuizOverrides.Payload.jsonText` — its text in the JSON format.
-/

namespace QuizOverrides.Payload

open Text

/-! ## Numbers -/

/-- The size of a number, rounded to 53 significant bits. -/
def numberSize (mantissa : Int) (places : Nat) : Number.Ratio :=
  Number.Ratio.nearest ⟨mantissa.natAbs, Nat.pow 10 places⟩

/-- **The text of a number**, which is first rounded. -/
def numberText (mantissa : Int) (places : Nat) : String :=
  let size := numberSize mantissa places
  if mantissa < 0 ∧ size.num ≠ 0 then "-" ++ size.text else size.text

/-- The text of a number in the JSON format, which has none beyond the finite ones. -/
def jsonNumber (mantissa : Int) (places : Nat) : String :=
  if (numberSize mantissa places).isFinite then numberText mantissa places else "null"

/-! ## Plain text -/

/-- What stands for a record in a message. -/
def recordText : String := "[object Object]"

mutual

/-- **The plain text** of a payload: a list is its items with commas between them, where an item
that is null is shown as nothing. -/
def plainText : Payload → String
  | null => "null"
  | bool b => if b then "true" else "false"
  | number m p => numberText m p
  | text s => s
  | list items => ",".intercalate (itemTexts items)
  | record _ => recordText

/-- The plain texts of the items of a list. -/
def itemTexts : List Payload → List String
  | [] => []
  | null :: rest => "" :: itemTexts rest
  | item :: rest => plainText item :: itemTexts rest

end

/-! ## JSON -/

/-- A hexadecimal digit in small letters. -/
def hexDigit (n : Nat) : Char :=
  if n < 10 then Char.ofNat (48 + n) else Char.ofNat (87 + n)

/-- **An escaped character**: the quote, the backslash and the controls are written with a
backslash. -/
def escapeChar (c : Char) : List Char :=
  if c == '\x22' then ['\\', '\x22']
  else if c == '\\' then ['\\', '\\']
  else if c == '\n' then ['\\', 'n']
  else if c == '\r' then ['\\', 'r']
  else if c == '\t' then ['\\', 't']
  else if c == '\x08' then ['\\', 'b']
  else if c == '\x0C' then ['\\', 'f']
  else if c.toNat < 0x20 then
    ['\\', 'u', '0', '0', hexDigit (c.toNat / 16), hexDigit (c.toNat % 16)]
  else [c]

/-- A text between quotes, escaped. -/
def quotedText (s : String) : String :=
  String.ofList ('\x22' :: s.toList.flatMap escapeChar ++ ['\x22'])

/-- The number that a field name writes as a place in a list, if it does: digits without a leading
zero, below `2 ^ 32 - 1`. -/
def place? (name : String) : Option Nat :=
  let cs := name.toList
  if cs.all isDigit && cs != [] then
    let n := digitsValue cs
    if digits n == cs && n < 4294967295 then some n else none
  else none

/-- **Fields in the order in which they are listed**: first those named by a place, by their
places, then all others as they are. -/
def listed {α : Type} (fields : List (String × α)) : List (String × α) :=
  let placed := fields.filterMap fun f => (place? f.1).map fun n => (n, f)
  (placed.mergeSort fun a b => a.1 ≤ b.1).map (·.2)
    ++ fields.filter fun f => (place? f.1).isNone

mutual

/-- **The JSON text** of a payload, without blanks. -/
def jsonText : Payload → String
  | null => "null"
  | bool b => if b then "true" else "false"
  | number m p => jsonNumber m p
  | text s => quotedText s
  | list items => "[" ++ ",".intercalate (jsonItems items) ++ "]"
  | record fields => "\x7b" ++
      ",".intercalate ((listed (jsonFields fields)).map fun (name, value) =>
        quotedText name ++ ":" ++ value) ++ "\x7d"

/-- The JSON texts of the items of a list. -/
def jsonItems : List Payload → List String
  | [] => []
  | item :: rest => jsonText item :: jsonItems rest

/-- The names of fields with the JSON texts of their values. -/
def jsonFields : List (String × Payload) → List (String × String)
  | [] => []
  | (name, value) :: rest => (name, jsonText value) :: jsonFields rest

end

end QuizOverrides.Payload
