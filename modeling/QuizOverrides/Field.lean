import QuizOverrides.Payload.Text

set_option autoImplicit false

/-!
# Fields

A field of a form, a report or a record may be left out, be null, or be given a value; nobody
promises that the value has the type that is asked for. These cases are told apart: they are shown
by different words, and a search for a null field finds what a search without the field does not.

## Main definitions

* `QuizOverrides.Field` — a field.
* `QuizOverrides.Field.shown`, `QuizOverrides.Field.text` — a field within a message.
* `QuizOverrides.Field.holds` — what a column has to hold to agree with a field.
* `QuizOverrides.Payload.ofField` — a field as a payload.
-/

namespace QuizOverrides

/-- **A field**: left out, null, with a value, or with a value of another type. -/
inductive Field (α : Type) where
  | absent
  | null
  | given (value : α)
  | other (value : Payload)
deriving DecidableEq, Repr

/-- A field is absent by default. -/
instance {α : Type} : Inhabited (Field α) := ⟨.absent⟩

namespace Field

/-- The value of a field, if it has one of its type. -/
def toOption {α : Type} : Field α → Option α
  | given a => some a
  | _ => none

/-- The field of a value that may be missing, null without one. -/
def ofOption {α : Type} : Option α → Field α
  | some a => given a
  | none => null

/-- **A field within a message**, its value shown by `f`. -/
def shown {α : Type} (f : α → String) : Field α → String
  | absent => "undefined"
  | null => "null"
  | given a => f a
  | other p => p.plainText

/-- A field of text within a message. -/
def text (field : Field String) : String := field.shown id

/-- A text that is not empty is given, or another value that does not count as not given. -/
def isGiven : Field String → Bool
  | given s => s != ""
  | other p => !p.isEmptyValue
  | _ => false

/-- **What a column holds agrees with a field**: nothing agrees with a field that is left out or of
another type, and the empty column agrees with the null field. -/
def holds {α : Type} [BEq α] (field : Field α) (column : Option α) : Bool :=
  match field, column with
  | given a, some b => a == b
  | null, none => true
  | _, _ => false

/-- A column agrees with the field made of it. -/
theorem holds_ofOption {α : Type} [BEq α] [ReflBEq α] (column : Option α) :
    (ofOption column).holds column = true := by
  cases column <;> simp [ofOption, holds]

end Field

/-- **The payload of a field**, unless it is left out. -/
def Payload.ofField {α : Type} (f : α → Payload) : Field α → Option Payload
  | .absent => none
  | .null => some null
  | .given a => some (f a)
  | .other p => some p

end QuizOverrides
