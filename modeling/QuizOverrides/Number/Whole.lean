import QuizOverrides.Number.Binary64
import QuizOverrides.Text.Blank

set_option autoImplicit false

/-!
# Whole numbers

Limits, row numbers and statuses are whole numbers of 53 significant bits; numbers beyond the finite
range are kept as such. A setting writes one as blanks, a sign and digits at the start of a text,
whatever follows being ignored.

## Main definitions

* `QuizOverrides.Whole` — a finite whole number or one beyond all bounds.
* `QuizOverrides.Whole.ofInt` — the number nearest to an integer.
* `QuizOverrides.Whole.ofText?` — the number at the start of a text.
* `QuizOverrides.Whole.text` — the number as text.
* `QuizOverrides.Whole.add?`, `QuizOverrides.Whole.times` — rounded arithmetic.
-/

namespace QuizOverrides

open Text

/-- **A whole number** of 53 significant bits, or one too large in size to be finite. -/
inductive Whole where
  | finite (value : Int)
  | beyond (negative : Bool)
deriving DecidableEq, Repr

namespace Whole

/-- The number nearest to an integer. -/
def ofInt (n : Int) : Whole :=
  let size := Number.nearest n.natAbs
  if size < Number.bound then finite (if n < 0 then -(size : Int) else size) else beyond (n < 0)

/-- **Reading a number**: leading blanks, a sign, and the digits that follow; `none` without a
digit. -/
def ofText? (s : String) : Option Whole :=
  let read (negative : Bool) (cs : List Char) : Option Whole :=
    match cs.takeWhile isDigit with
    | [] => none
    | ds => some (ofInt (if negative then -(digitsValue ds : Int) else digitsValue ds))
  match s.toList.dropWhile isBlank with
  | '-' :: cs => read true cs
  | '+' :: cs => read false cs
  | cs => read false cs

/-- **The text** of a number. -/
def text : Whole → String
  | finite n => if n < 0 then "-" ++ Number.decimalText n.natAbs else Number.decimalText n.natAbs
  | beyond false => "Infinity"
  | beyond true => "-Infinity"

/-- The number is below the integer `n`. -/
def below (w : Whole) (n : Int) : Bool :=
  match w with
  | finite v => v < n
  | beyond negative => negative

/-! ## Arithmetic -/

/-- The number with the other sign. -/
def neg : Whole → Whole
  | finite v => finite (-v)
  | beyond negative => beyond !negative

/-- **The sum**, rounded. Two numbers beyond the bounds on different sides have none. -/
def add? : Whole → Whole → Option Whole
  | finite v, finite w => some (ofInt (v + w))
  | finite _, beyond negative => some (beyond negative)
  | beyond negative, finite _ => some (beyond negative)
  | beyond a, beyond b => if a = b then some (beyond a) else none

/-- **The product** with an integer above zero, rounded. -/
def times (w : Whole) (n : Int) : Whole :=
  match w with
  | finite v => ofInt (v * n)
  | beyond negative => beyond negative

/-- The number is smaller than the other. -/
def less : Whole → Whole → Bool
  | finite v, w => match w with
    | finite w => v < w
    | beyond negative => !negative
  | beyond negative, w => negative && w != beyond true

/-- An integer of at most 53 bits is a number itself. -/
theorem ofInt_eq_finite {n : Int} (h : n.natAbs < Nat.pow 2 53) : ofInt n = finite n := by
  have hn : Number.nearest n.natAbs = n.natAbs := if_pos h
  have grow (k : Nat) (hk : 53 ≤ k) : Nat.pow 2 53 ≤ Nat.pow 2 k :=
    Nat.pow_le_pow_right (by decide) hk
  have hb : n.natAbs < Number.bound := by
    unfold Number.bound
    generalize hk : (1024 : Nat) = k
    exact Nat.lt_of_lt_of_le h (grow k (by omega))
  have hs : (if n < 0 then -(n.natAbs : Int) else n.natAbs) = n := by split <;> omega
  simp only [ofInt, hn, hb, if_true, hs]

end Whole

end QuizOverrides
