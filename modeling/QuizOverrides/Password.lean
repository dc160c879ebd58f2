import QuizOverrides.Site.Basic

set_option autoImplicit false

/-!
# Generated passwords

A generated password has one character for each random draw, taken from an alphabet without
characters that are easily mistaken for one another.

## Main definitions

* `QuizOverrides.Password.alphabet` — the characters.
* `QuizOverrides.Password.ofDraws` — the password of a sequence of draws.
* `QuizOverrides.Password.generate` — a password of a given length.
-/

namespace QuizOverrides.Password

/-- **The alphabet** of generated passwords. -/
def alphabet : List Char :=
  "ABCDEFGHJKLMNPQRSTUVWXYZabcdefghijkmnopqrstuvwxyz23456789!#$%&*+-=?@^_".toList

/-- The number of characters of the alphabet, below which draws are made. -/
def bound : Nat := alphabet.length

/-- What stands in a password for a draw that is no place of the alphabet. -/
def misdrawn : List Char := "undefined".toList

/-- What a draw adds to a password: the character at its place of the alphabet. -/
def charsOf (n : Int) : List Char :=
  if n < 0 then misdrawn
  else
    match alphabet[n.toNat]? with
    | some c => [c]
    | none => misdrawn

/-- **The password of draws**, one character for each. -/
def ofDraws (draws : List Int) : String :=
  String.ofList (draws.flatMap charsOf)

/-- As many draws as asked for. -/
def drawMany : Nat → StateM Site (List Int)
  | 0 => pure []
  | n + 1 => do
    let first ← draw bound
    let rest ← drawMany n
    pure (first :: rest)

/-- **A password** of the given length; a length below zero is none. -/
def generate (length : Int) : StateM Site String :=
  ofDraws <$> drawMany length.toNat

end QuizOverrides.Password
