import QuizOverrides.Text.Ascii

set_option autoImplicit false

/-!
# Numbers with 53 significant bits

Configured numbers and the numbers of payloads are kept with 53 significant binary digits: any other
number is replaced by the nearest one that has so few, a tie by the one with an even last digit.
Such a number is written with the fewest decimal digits that read back as it.

## Main definitions

* `QuizOverrides.Number.Ratio` — a positive number or zero, as a quotient of natural numbers.
* `QuizOverrides.Number.Ratio.nearest` — the nearest number with 53 significant bits.
* `QuizOverrides.Number.Ratio.shortest` — the fewest decimal digits that read back as a number.
* `QuizOverrides.Number.Ratio.text` — the text of a number.
* `QuizOverrides.Number.nearest`, `QuizOverrides.Number.decimalText` — the same for whole numbers.

## Design

All arithmetic is done on natural numbers: a number is a quotient, rounding compares a remainder
with half the divisor, and whether digits read back as a number is found out by rounding what they
write.
-/

namespace QuizOverrides.Number

open Text

/-- **A number** that is not negative, as a quotient. -/
structure Ratio where
  num : Nat
  den : Nat
deriving Repr

/-- The least whole number that has no place among the finite ones. -/
def bound : Nat := Nat.pow 2 1024

namespace Ratio

/-- The whole number as a quotient. -/
def ofNat (n : Nat) : Ratio := ⟨n, 1⟩

/-- The number `n` times a power of `base`. -/
def scale (base n : Nat) (exponent : Int) : Ratio :=
  if 0 ≤ exponent then ⟨n * Nat.pow base exponent.toNat, 1⟩
  else ⟨n, Nat.pow base (-exponent).toNat⟩

/-- The number divided by a power of `base`. -/
def unscale (base : Nat) (x : Ratio) (exponent : Int) : Ratio :=
  if 0 ≤ exponent then ⟨x.num, x.den * Nat.pow base exponent.toNat⟩
  else ⟨x.num * Nat.pow base (-exponent).toNat, x.den⟩

/-- The whole part. -/
def floor (x : Ratio) : Nat := x.num / x.den

/-- The two quotients are the same number. -/
def same (x y : Ratio) : Bool := x.num * y.den == y.num * x.den

/-! ## Rounding -/

/-- The exponent of the last bit that is kept: the whole part of the number divided by that power of
two has 53 bits, unless the number is so small that its last bit has the least exponent there is. -/
def lastBit (x : Ratio) : Int :=
  let guess := (x.num.log2 : Int) - x.den.log2 - 52
  let exponent := if (x.unscale 2 guess).floor < Nat.pow 2 52 then guess - 1 else guess
  max exponent (-1074)

/-- The nearest whole number, a tie going to the even one. -/
def round (x : Ratio) : Nat :=
  let low := x.num / x.den
  let rest := x.num % x.den
  if x.den < 2 * rest || (2 * rest == x.den && low % 2 == 1) then low + 1 else low

/-- **Rounding to 53 significant bits.** -/
def nearest (x : Ratio) : Ratio :=
  let exponent := x.lastBit
  scale 2 (x.unscale 2 exponent).round exponent

/-! ## Digits -/

/-- How many digits stand before the decimal point; for a number below one tenth, how many zeros
follow it, negated. -/
def point (x : Ratio) : Int :=
  let guess := ((digits x.num).length : Int) - (digits x.den).length
  if (x.unscale 10 guess).floor = 0 then guess else guess + 1

/-- **Decimal digits** and the place of the point: `0.d₁d₂…` times a power of ten. -/
structure Decimal where
  digits : List Char
  point : Int
deriving DecidableEq, Repr

/-- The digits of a multiple of a power of ten, without zeros at the end. -/
def Decimal.ofScaled (n : Nat) (exponent : Int) : Decimal :=
  let all := Text.digits n
  ⟨(all.reverse.dropWhile (· == '0')).reverse, exponent + all.length⟩

/-- The digits with at most `k` of them that read back as `x`; of two the nearer ones, and of two
that are equally near those with an even last digit. It is `none` if there are none. -/
def withDigits? (x : Ratio) (k : Nat) : Option Decimal :=
  let exponent := x.point - k
  let scaled := x.unscale 10 exponent
  let below := scaled.floor
  let above := below + 1
  let back (n : Nat) : Bool := (scale 10 n exponent).nearest.same x
  let found (n : Nat) : Option Decimal := some (.ofScaled n exponent)
  match back below, back above with
  | true, true => found scaled.round
  | true, false => found below
  | false, true => found above
  | false, false => none

/-- **The shortest digits** that read back as `x`: seventeen always suffice. -/
def shortest (x : Ratio) : Decimal :=
  ((List.range 17).findSome? fun k => x.withDigits? (k + 1)).getD ⟨digits x.floor, x.point⟩

/-- **The text of digits**: with the point in its place if at most 21 digits stand before it and at
most five zeros follow it, and otherwise with one digit before the point and an exponent. -/
def Decimal.text (d : Decimal) : List Char :=
  let length : Int := d.digits.length
  let zeros (n : Int) : List Char := List.replicate n.toNat '0'
  if length ≤ d.point ∧ d.point ≤ 21 then d.digits ++ zeros (d.point - length)
  else if 0 < d.point ∧ d.point ≤ 21 then
    d.digits.take d.point.toNat ++ '.' :: d.digits.drop d.point.toNat
  else if -6 < d.point ∧ d.point ≤ 0 then '0' :: '.' :: zeros (-d.point) ++ d.digits
  else
    let exponent := d.point - 1
    let mantissa := match d.digits with
      | first :: second :: rest => first :: '.' :: second :: rest
      | short => short
    mantissa ++ 'e' :: (if exponent < 0 then '-' else '+') :: Text.digits exponent.natAbs

/-- The number is one of the finite ones. -/
def isFinite (x : Ratio) : Bool := x.floor < bound

/-- **The text of a number** with 53 significant bits. -/
def text (x : Ratio) : String :=
  if x.num = 0 then "0"
  else if x.isFinite then String.ofList x.shortest.text
  else "Infinity"

end Ratio

/-! ## Whole numbers -/

/-- **The whole number nearest to `n`** with 53 significant bits; large numbers stay whole. -/
def nearest (n : Nat) : Nat :=
  if n < Nat.pow 2 53 then n else (Ratio.ofNat n).nearest.num

/-- **The text of a whole number** with 53 significant bits. -/
def decimalText (n : Nat) : String := (Ratio.ofNat n).text

end QuizOverrides.Number
