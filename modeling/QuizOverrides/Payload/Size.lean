import QuizOverrides.Payload.Text

set_option autoImplicit false

/-!
# Payloads as sizes

A payload in the place of a number is compared with one by the number that it stands for: a text by
the number that it writes, a list by its text.

## Main definitions

* `QuizOverrides.Payload.Written` — a number as a text writes it.
* `QuizOverrides.Payload.reaches` — the payload stands for a number that is not below a bound.
-/

namespace QuizOverrides.Payload

open Text

/-- **A number as a text writes it**: digits, how many of them follow the point, and the
exponent. -/
structure Written where
  mantissa : Int
  places : Nat
  exponent : Int
deriving DecidableEq, Repr

namespace Written

/-- The digits with a sign before them. -/
def signed : List Char → Option Int
  | '-' :: ds => if ds != [] && ds.all isDigit then some (-(digitsValue ds : Int)) else none
  | '+' :: ds => if ds != [] && ds.all isDigit then some (digitsValue ds) else none
  | ds => if ds != [] && ds.all isDigit then some (digitsValue ds) else none

/-- **Reading a written number** without blanks around it: a sign, digits with a point in them, and
an exponent. Nothing at all writes zero. -/
def ofChars? (cs : List Char) : Option Written :=
  if cs = [] then some ⟨0, 0, 0⟩
  else do
    let (head, tail) := cs.span fun c => c != 'e' && c != 'E'
    let exponent ← match tail with
      | [] => some 0
      | _ :: ds => signed ds
    let (whole, fraction) := head.span (· != '.')
    let fraction := fraction.drop 1
    let mantissa ← signed (whole ++ fraction)
    some ⟨mantissa, fraction.length, exponent⟩

/-- Exponents of this size and more leave the range of numbers. -/
def range : Nat := 400

/-- The number is not below a bound above zero. -/
def reaches (w : Written) (bound : Nat) : Bool :=
  if w.mantissa ≤ 0 then false
  else if range < w.exponent.natAbs then 0 < w.exponent
  else
    let scale := Nat.pow 10 w.exponent.natAbs
    if 0 ≤ w.exponent then bound ≤ (numberSize (w.mantissa * scale) w.places).floor
    else bound ≤ (numberSize w.mantissa (w.places + w.exponent.natAbs)).floor

/-- The number that a text writes is not below a bound above zero. -/
def textReaches (s : String) (bound : Nat) : Bool :=
  let cs := trimChars s.toList
  if cs = "Infinity".toList then true
  else (ofChars? cs).any fun w => w.reaches bound

end Written

/-- **The payload stands for a number that is not below a bound** above one. -/
def reaches (bound : Nat) : Payload → Bool
  | number m p => Written.reaches ⟨m, p, 0⟩ bound
  | text s => Written.textReaches s bound
  | list items => Written.textReaches (list items).plainText bound
  | _ => false

end QuizOverrides.Payload
