set_option autoImplicit false

/-!
# ASCII texts

Labels, zone names and identifiers are compared without regard to the case of the Latin letters of
ASCII; all other characters have to agree. Digits are the ten of ASCII.

## Main definitions

* `QuizOverrides.Text.lower` — the text with its ASCII capitals made small.
* `QuizOverrides.Text.isHex` — hexadecimal digits of either case.
* `QuizOverrides.Text.digitsValue` — the number that a sequence of digits writes.
* `QuizOverrides.Text.padded` — a number written with at least so many digits.
-/

namespace QuizOverrides.Text

/-- The text with every capital of ASCII replaced by its small letter. -/
def lower (s : String) : String :=
  String.ofList (s.toList.map Char.toLower)

/-- A decimal digit of ASCII. -/
def isDigit (c : Char) : Bool :=
  '0' ≤ c && c ≤ '9'

/-- A hexadecimal digit, of either case. -/
def isHex (c : Char) : Bool :=
  isDigit c || ('a' ≤ c && c ≤ 'f') || ('A' ≤ c && c ≤ 'F')

/-- The value of a decimal digit. -/
def digitValue (c : Char) : Nat :=
  c.toNat - '0'.toNat

/-- **The number written** by a sequence of decimal digits, leading zeros and all. -/
def digitsValue (cs : List Char) : Nat :=
  cs.foldl (fun n c => 10 * n + digitValue c) 0

/-- The decimal digits of a number, without leading zeros. -/
def digits (n : Nat) : List Char :=
  Nat.toDigits 10 n

/-- The decimal digits of a number, filled up with zeros to at least `width`. -/
def padded (width n : Nat) : List Char :=
  List.replicate (width - (digits n).length) '0' ++ digits n

/-- An integer as decimal text, a minus sign before a negative one. -/
def intText (n : Int) : String :=
  match n with
  | .ofNat k => String.ofList (digits k)
  | .negSucc k => String.ofList ('-' :: digits (k + 1))

end QuizOverrides.Text
