import QuizOverrides.Payload.Text

set_option autoImplicit false

/-!
# Misused values

What a request carries is used as what it should be. A value of another shape may turn out to have
no text to be shown, or not to have the part, the operation or the items that are asked of it; then
the request fails with the fault of the value.

## Main definitions

* `QuizOverrides.ValueFault` — what is wrong with a value, and `ValueFault.message`.
* `QuizOverrides.Payload.text?` — the text of a payload that has one.
* `QuizOverrides.Payload.partFault?` — the fault of a value that is not there.
-/

namespace QuizOverrides

/-- **What is wrong with a value.** -/
inductive ValueFault where
  /-- The value has no text. -/
  | noText
  /-- The value, which is shown in the given way, is not there to have a part. -/
  | noPart (shown part : String)
  /-- The value of a name is not there to be taken apart. -/
  | noParts (shown name part : String)
  /-- The value has no operation of the name. -/
  | noOperation (name : String)
  /-- The value of the name has no items. -/
  | noItems (name : String)
  /-- There is nothing to be read. -/
  | noInput
deriving DecidableEq, Repr

namespace ValueFault

/-- The name of the error that a fault raises. -/
def errorName : String := "TypeError"

/-- **The words for a fault.** -/
def message : ValueFault → String
  | noText => "Cannot convert object to primitive value"
  | noPart shown part => s!"Cannot read properties of {shown} (reading '{part}')"
  | noParts shown name part =>
    s!"Cannot destructure property '{part}' of '{name}' as it is {shown}."
  | noOperation name => s!"{name} is not a function"
  | noItems name => s!"{name} is not iterable"
  | noInput => "fromFormat requires an input string and a format"

end ValueFault

namespace Payload

/-- The name of the part that gives a record its text. A record with a field of this name has that
field in its place. -/
def textName : String := "toString"

mutual

/-- **The payload has a text**: no record that would have to be shown has a field in the place of
what gives it its text. -/
def hasText : Payload → Bool
  | record fields => fields.all fun field => field.1 != textName
  | list items => itemsHaveText items
  | _ => true

/-- All items of a list have a text. -/
def itemsHaveText : List Payload → Bool
  | [] => true
  | item :: rest => hasText item && itemsHaveText rest

end

/-- **The text of a payload**, or the fault of one that has none. -/
def text? (p : Payload) : Except ValueFault String :=
  if p.hasText then .ok p.plainText else .error .noText

/-- The text of a value that may be left out. -/
def wordOf (value : Option Payload) : String :=
  (value.map plainText).getD "undefined"

/-- The text of a value that may be left out, or the fault of one that has none. -/
def word? (value : Option Payload) : Except ValueFault String :=
  match value with
  | none => .ok (wordOf none)
  | some p => p.text?

/-- **The fault of taking a part** of a value that is left out or null. -/
def partFault? (value : Option Payload) (part : String) : Option ValueFault :=
  match value with
  | none | some null => some (.noPart (wordOf value) part)
  | _ => none

end Payload

end QuizOverrides
