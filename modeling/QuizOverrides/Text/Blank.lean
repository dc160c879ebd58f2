set_option autoImplicit false

/-!
# White space

The class of blank characters that cells, configuration values and names are trimmed of, and
trimming itself. The class is the union of the line ends, the ASCII controls that separate words
and the Unicode space separators, together with the byte-order mark; it is wider than
`Char.isWhitespace`, which knows ASCII only.

## Main definitions

* `QuizOverrides.Text.isBlank` — the class.
* `QuizOverrides.Text.trim` — a text without its leading and trailing blanks.
-/

namespace QuizOverrides.Text

/-- **Blank characters**: tab to carriage return, the space, the no-break space, the Ogham space,
the typographic spaces, the line and paragraph separators, the narrow and mathematical spaces, the
ideographic space and the byte-order mark. -/
def isBlank (c : Char) : Bool :=
  let n := c.toNat
  (0x09 ≤ n && n ≤ 0x0D) || n == 0x20 || n == 0xA0 || n == 0x1680
    || (0x2000 ≤ n && n ≤ 0x200A) || n == 0x2028 || n == 0x2029 || n == 0x202F
    || n == 0x205F || n == 0x3000 || n == 0xFEFF

/-- The characters without the blanks they begin and end with. -/
def trimChars (cs : List Char) : List Char :=
  ((cs.dropWhile isBlank).reverse.dropWhile isBlank).reverse

/-- **Trimming**: the text without its leading and trailing blanks. -/
def trim (s : String) : String :=
  String.ofList (trimChars s.toList)

/-- Every blank of the ASCII class of the core library is a blank here. -/
theorem isBlank_of_isWhitespace {c : Char} (h : c.isWhitespace = true) : isBlank c = true := by
  simp only [Char.isWhitespace, Bool.or_eq_true, decide_eq_true_eq] at h
  rcases h with ((rfl | rfl) | rfl) | rfl <;> decide

end QuizOverrides.Text
