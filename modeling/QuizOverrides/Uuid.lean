import QuizOverrides.Text.Ascii

set_option autoImplicit false

/-!
# Identifiers

Quizzes, users, groups and imports are named by identifiers of the shape 8-4-4-4-12 in hexadecimal
digits. The tables are searched only for *issued* identifiers, those whose version and variant
digits are in use, while a request's address has only to have the *shape*.

## Main definitions

* `QuizOverrides.Uuid.hasShape` — five groups of hexadecimal digits.
* `QuizOverrides.Uuid.isIssued` — the shape with a version from 1 to 8 and the standard variant,
  or one of the two constants with all bits equal.
-/

namespace QuizOverrides.Uuid

open Text

/-- Splits off `n` hexadecimal digits; `none` if there are fewer. -/
def takeHex? : Nat → List Char → Option (List Char × List Char)
  | 0, cs => some ([], cs)
  | _ + 1, [] => none
  | n + 1, c :: cs =>
    if isHex c then (takeHex? n cs).map fun (taken, rest) => (c :: taken, rest) else none

/-- Splits off `n` hexadecimal digits and the hyphen after them. -/
def takeGroup? (n : Nat) (cs : List Char) : Option (List Char × List Char) :=
  match takeHex? n cs with
  | some (taken, '-' :: rest) => some (taken, rest)
  | _ => none

/-- **The five groups** of a text of the shape 8-4-4-4-12. -/
def groups? (s : String) : Option (List (List Char)) := do
  let (a, rest) ← takeGroup? 8 s.toList
  let (b, rest) ← takeGroup? 4 rest
  let (c, rest) ← takeGroup? 4 rest
  let (d, rest) ← takeGroup? 4 rest
  let (e, rest) ← takeHex? 12 rest
  if rest.isEmpty then some [a, b, c, d, e] else none

/-- The text is five groups of hexadecimal digits. -/
def hasShape (s : String) : Bool :=
  (groups? s).isSome

/-- The third group begins with a version digit, the fourth with a variant digit. -/
def hasVersion : List (List Char) → Bool
  | [_, _, v :: _, w :: _, _] =>
    '1' ≤ v && v ≤ '8' && ['8', '9', 'a', 'b'].contains w.toLower
  | _ => false

/-- All digits are the digit `d`, in either case. -/
def allDigits (d : Char) (groups : List (List Char)) : Bool :=
  groups.all fun g => g.all fun c => c.toLower == d

/-- **Issued identifiers**: the shape with version and variant digits in use, or all zeros, or
all ones. -/
def isIssued (s : String) : Bool :=
  match groups? s with
  | some groups => hasVersion groups || allDigits '0' groups || allDigits 'f' groups
  | none => false

end QuizOverrides.Uuid
