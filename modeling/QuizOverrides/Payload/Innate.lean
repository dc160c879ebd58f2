import QuizOverrides.Payload.Text

set_option autoImplicit false

/-!
# Innate parts

Every collection of named values has some parts by nature: operations, and the model that it was
made after. A name is looked for among them if the collection has no value of that name.

## Main definitions

* `QuizOverrides.Innate` — an innate part, and `Innate.find?`.
* `QuizOverrides.Innate.text` and `QuizOverrides.Innate.shown` — how it is shown.
-/

namespace QuizOverrides

/-- **An innate part**: an operation with its own name and the number of values that it takes, or
the model, an empty record. -/
inductive Innate where
  | operation (name : String) (values : Nat)
  | model
deriving DecidableEq, Repr

namespace Innate

/-- The name of the model. -/
def modelName : String := "__proto__"

/-- The operations that are found by their own names. -/
def operations : List (String × Nat) :=
  [("__defineGetter__", 2), ("__defineSetter__", 2), ("__lookupGetter__", 1),
    ("__lookupSetter__", 1), ("hasOwnProperty", 1), ("isPrototypeOf", 1),
    ("propertyIsEnumerable", 1), ("toLocaleString", 0), ("toString", 0), ("valueOf", 0)]

/-- **The innate part of a name.** -/
def find? (name : String) : Option Innate :=
  if name = modelName then some model
  else if name = "constructor" then some (operation "Object" 1)
  else (operations.lookup name).map (operation name)

/-- The text of an innate part. -/
def text : Innate → String
  | operation name _ => "function " ++ name ++ "() \x7b [native code] \x7d"
  | model => Payload.recordText

/-- What is shown of an innate part: nothing of an operation. -/
def shown : Innate → Option Payload
  | operation _ _ => none
  | model => some (.record [])

end Innate

end QuizOverrides
