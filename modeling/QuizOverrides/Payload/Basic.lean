import QuizOverrides.Number.Whole

set_option autoImplicit false

/-!
# Payloads

Requests, error responses and audit entries carry structured values whose shape nobody promises. A
payload is such a value.

## Main definitions

* `QuizOverrides.Payload` — a structured value; any two of them can be compared.
* `QuizOverrides.Payload.field?` — a field of a record.
* `QuizOverrides.Payload.members` — the parts of a payload by their names.
* `QuizOverrides.Payload.isEmptyValue` — the values that count as not given.
* `QuizOverrides.Payload.ofText?`, `ofNat`, `ofInt`, `ofWhole` — common payloads.
-/

namespace QuizOverrides

/-- **A structured value.** A number is `mantissa / 10 ^ places`. -/
inductive Payload where
  | null
  | bool (value : Bool)
  | number (mantissa : Int) (places : Nat)
  | text (value : String)
  | list (items : List Payload)
  | record (fields : List (String × Payload))
deriving Inhabited, Repr

namespace Payload

/-! ## Comparison -/

mutual

/-- The two payloads are the same. -/
def same : Payload → Payload → Bool
  | null, null => true
  | bool a, bool b => a == b
  | number m p, number n q => m == n && p == q
  | text s, text t => s == t
  | list xs, list ys => sameItems xs ys
  | record xs, record ys => sameFields xs ys
  | _, _ => false

/-- The two lists have the same items. -/
def sameItems : List Payload → List Payload → Bool
  | [], [] => true
  | x :: xs, y :: ys => same x y && sameItems xs ys
  | _, _ => false

/-- The two records have the same fields. -/
def sameFields : List (String × Payload) → List (String × Payload) → Bool
  | [], [] => true
  | (a, x) :: xs, (b, y) :: ys => a == b && same x y && sameFields xs ys
  | _, _ => false

end

mutual

/-- Payloads that compare as the same are equal. -/
theorem eq_of_same : ∀ p q : Payload, same p q = true → p = q
  | null, q, h => by cases q <;> simp_all [same]
  | bool a, q, h => by cases q <;> simp_all [same]
  | number m n, q, h => by cases q <;> simp_all [same]
  | text s, q, h => by cases q <;> simp_all [same]
  | list xs, q, h => by
    cases q with
    | list ys => exact congrArg list (eq_of_sameItems xs ys (by simpa [same] using h))
    | _ => simp [same] at h
  | record xs, q, h => by
    cases q with
    | record ys => exact congrArg record (eq_of_sameFields xs ys (by simpa [same] using h))
    | _ => simp [same] at h

/-- Lists of items that compare as the same are equal. -/
theorem eq_of_sameItems : ∀ xs ys : List Payload, sameItems xs ys = true → xs = ys
  | [], ys, h => by cases ys <;> simp_all [sameItems]
  | x :: xs, ys, h => by
    cases ys with
    | nil => simp [sameItems] at h
    | cons y ys =>
      simp only [sameItems, Bool.and_eq_true] at h
      rw [eq_of_same x y h.1, eq_of_sameItems xs ys h.2]

/-- Lists of fields that compare as the same are equal. -/
theorem eq_of_sameFields :
    ∀ xs ys : List (String × Payload), sameFields xs ys = true → xs = ys
  | [], ys, h => by cases ys <;> simp_all [sameFields]
  | (a, x) :: xs, ys, h => by
    cases ys with
    | nil => simp [sameFields] at h
    | cons y ys =>
      obtain ⟨b, y⟩ := y
      simp only [sameFields, Bool.and_eq_true, beq_iff_eq] at h
      rw [h.1.1, eq_of_same x y h.1.2, eq_of_sameFields xs ys h.2]

end

mutual

/-- A payload is the same as itself. -/
theorem same_self : ∀ p : Payload, same p p = true
  | null => rfl
  | bool _ => by simp [same]
  | number _ _ => by simp [same]
  | text _ => by simp [same]
  | list xs => by rw [same]; exact sameItems_self xs
  | record xs => by rw [same]; exact sameFields_self xs

/-- A list has the same items as itself. -/
theorem sameItems_self : ∀ xs : List Payload, sameItems xs xs = true
  | [] => rfl
  | x :: xs => by rw [sameItems, same_self x, sameItems_self xs]; rfl

/-- A list has the same fields as itself. -/
theorem sameFields_self : ∀ xs : List (String × Payload), sameFields xs xs = true
  | [] => rfl
  | (a, x) :: xs => by simp [sameFields, same_self x, sameFields_self xs]

end

/-- Equality of payloads can be decided. -/
instance : DecidableEq Payload := fun p q =>
  decidable_of_iff (same p q = true) ⟨eq_of_same p q, fun h => h ▸ same_self p⟩

/-! ## Making payloads -/

/-- The payload of an integer. -/
def ofInt (n : Int) : Payload := number n 0

/-- The payload of a natural number. -/
def ofNat (n : Nat) : Payload := number n 0

/-- The payload of a whole number; one beyond the finite numbers has no place in a payload. -/
def ofWhole : Whole → Payload
  | .finite n => ofInt n
  | .beyond _ => null

/-- The payload of a text that may be missing. -/
def ofText? : Option String → Payload
  | none => null
  | some s => text s

/-- The payload of a value that may be missing. -/
def ofOption {α : Type} (f : α → Payload) : Option α → Payload
  | none => null
  | some a => f a

/-- The record of the fields that are given; a missing field is left out. -/
def ofGiven (fields : List (String × Option Payload)) : Payload :=
  record (fields.filterMap fun (name, value) => value.map fun v => (name, v))

/-! ## Parts -/

/-- **A field** of a record; other values have none. -/
def field? (name : String) : Payload → Option Payload
  | record fields => fields.lookup name
  | _ => none

/-- The fields of a record and the items of a list, which are named by their places. -/
def members : Payload → List (String × Payload)
  | record fields => fields
  | list items => items.zipIdx.map fun (item, i) => (Text.intText i, item)
  | _ => []

/-- What a payload adds to a record that takes in all it has: its members, and the characters of a
text by their places. -/
def spread : Payload → List (String × Payload)
  | text s => (list (s.toList.map fun c => text (String.singleton c))).members
  | payload => payload.members

/-- **Values that count as not given**: the null value, falsehood, zero and the empty text. -/
def isEmptyValue : Payload → Bool
  | null => true
  | bool b => !b
  | number m _ => m == 0
  | text s => s == ""
  | _ => false

end Payload

end QuizOverrides
