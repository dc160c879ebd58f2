set_option autoImplicit false

/-!
# Sixteen-bit code units

Lengths of texts, and the order in which listings sort them, are taken on sixteen-bit code units:
a character of the basic plane is one unit, any other is a pair of surrogates. The order differs
from the order by code points, since the surrogates lie below the last part of the basic plane.

## Main definitions

* `QuizOverrides.Text.unitsOf` — the units of a character.
* `QuizOverrides.Text.unitLength` — the length of a text in units.
* `QuizOverrides.Text.unitLE` — the order of texts by their units.
* `QuizOverrides.Text.ofUnits?` — the text that a sequence of units spells, if it spells one.
-/

namespace QuizOverrides.Text

/-- **The code units of a character**: itself in the basic plane, else a high and a low
surrogate. -/
def unitsOf (c : Char) : List Nat :=
  if c.toNat < 0x10000 then [c.toNat]
  else
    let rest := c.toNat - 0x10000
    [0xD800 + rest / 0x400, 0xDC00 + rest % 0x400]

/-- The code units of a text, one character after the other. -/
def units (s : String) : List Nat :=
  s.toList.flatMap unitsOf

/-- The length of a text in code units. -/
def unitLength (s : String) : Nat :=
  (units s).length

/-- Lexicographic order of sequences of units; a proper initial part comes first. -/
def seqLE : List Nat → List Nat → Bool
  | [], _ => true
  | _ :: _, [] => false
  | a :: as, b :: bs => a < b || (a == b && seqLE as bs)

/-- **The order of texts** by their code units. -/
def unitLE (s t : String) : Bool :=
  seqLE (units s) (units t)

/-- **Reading units back.** Each unit outside the surrogates is a character and each pair of a high
and a low surrogate is one; a surrogate in any other place spells nothing. -/
def charsOfUnits? : List Nat → Option (List Char)
  | [] => some []
  | [u] => if u < 0xD800 || 0xDFFF < u then some [Char.ofNat u] else none
  | u :: v :: rest =>
    if u < 0xD800 || 0xDFFF < u then (charsOfUnits? (v :: rest)).map (Char.ofNat u :: ·)
    else if u < 0xDC00 && 0xDC00 ≤ v && v ≤ 0xDFFF then
      (charsOfUnits? rest).map
        (Char.ofNat (0x10000 + (u - 0xD800) * 0x400 + (v - 0xDC00)) :: ·)
    else none

/-- The text that the units spell, if they spell one. -/
def ofUnits? (us : List Nat) : Option String :=
  (charsOfUnits? us).map String.ofList

/-- The order is total. -/
theorem seqLE_total (xs ys : List Nat) : (seqLE xs ys || seqLE ys xs) = true := by
  induction xs generalizing ys with
  | nil => simp [seqLE]
  | cons x xs ih =>
    cases ys with
    | nil => simp [seqLE]
    | cons y ys =>
      rcases Nat.lt_trichotomy x y with h | rfl | h
      · simp [seqLE, h]
      · simpa [seqLE] using ih ys
      · simp [seqLE, h]

end QuizOverrides.Text
