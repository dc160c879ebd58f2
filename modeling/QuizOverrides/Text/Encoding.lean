import QuizOverrides.Text.Units
import QuizOverrides.Text.Ascii

set_option autoImplicit false

/-!
# Encodings of uploaded files

An upload is a sequence of bytes and the label of an encoding. Decoding is strict: bytes that no
text is written as are refused, never replaced. One byte-order mark at the start is dropped by the
encodings that have one.

## Main definitions

* `QuizOverrides.Encoding` — four encodings, and `Encoding.ofLabel?`, which finds one by a label.
* `QuizOverrides.Encoding.decode?` — the text that bytes stand for.
* `QuizOverrides.Encoding.encode?` — the bytes of a text, if the encoding can write it.
* `QuizOverrides.DecodeError` — why an upload has no text.
* `QuizOverrides.decodeUpload` — label and bytes to text.

## Design

UTF-8 is what a `String` is made of, so its decoder is the validity check of the core library. The
two forms of UTF-16 differ in the order of the bytes of a unit only and share everything else. There
are many more labels. Their decoders come with the runtime, and an upload is decoded with whatever
decoders there are.
-/

namespace QuizOverrides

open Text

/-- **An encoding** of texts. -/
inductive Encoding where
  | utf8
  | utf16le
  | utf16be
  | windows1252
deriving DecidableEq, Repr

namespace Encoding

/-! ## Labels -/

/-- The labels of each encoding, in small letters. -/
def labels : Encoding → List String
  | utf8 =>
    ["utf-8", "utf8", "unicode-1-1-utf-8", "unicode11utf8", "unicode20utf8", "x-unicode20utf8"]
  | utf16le =>
    ["utf-16", "utf-16le", "unicode", "csunicode", "iso-10646-ucs-2", "ucs-2", "unicodefeff"]
  | utf16be => ["utf-16be", "unicodefffe"]
  | windows1252 =>
    ["windows-1252", "cp1252", "x-cp1252", "latin1", "l1", "iso-8859-1", "iso8859-1", "iso88591",
      "iso_8859-1", "iso_8859-1:1987", "iso-ir-100", "ibm819", "cp819", "csisolatin1", "ascii",
      "us-ascii", "ansi_x3.4-1968"]

/-- Blanks that may stand around a label: tab, line feed, form feed, carriage return, space. -/
def isLabelBlank (c : Char) : Bool :=
  c == '\t' || c == '\n' || c == '\x0C' || c == '\r' || c == ' '

/-- A label as it is looked up: without the blanks around it and in small letters. -/
def normalLabel (label : String) : String :=
  let cs := label.toList.dropWhile isLabelBlank
  lower (String.ofList (cs.reverse.dropWhile isLabelBlank).reverse)

/-- **The encoding a label names.** -/
def ofLabel? (label : String) : Option Encoding :=
  [utf8, utf16le, utf16be, windows1252].find? fun e => e.labels.contains (normalLabel label)

/-! ## Windows-1252 -/

/-- The characters of the bytes from `0x80` to `0x9F`; the five unassigned bytes stand for the
control characters of their own code. -/
def windowsUpper : List Nat :=
  [0x20AC, 0x81, 0x201A, 0x0192, 0x201E, 0x2026, 0x2020, 0x2021,
    0x02C6, 0x2030, 0x0160, 0x2039, 0x0152, 0x8D, 0x017D, 0x8F,
    0x90, 0x2018, 0x2019, 0x201C, 0x201D, 0x2022, 0x2013, 0x2014,
    0x02DC, 0x2122, 0x0161, 0x203A, 0x0153, 0x9D, 0x017E, 0x0178]

/-- The character a byte of Windows-1252 stands for. -/
def windowsChar (b : UInt8) : Char :=
  let n := b.toNat
  if 0x80 ≤ n && n ≤ 0x9F then Char.ofNat (windowsUpper.getD (n - 0x80) n) else Char.ofNat n

/-- The byte that stands for a character in Windows-1252, if there is one. -/
def windowsByte? (c : Char) : Option UInt8 :=
  ((List.range 256).map UInt8.ofNat).find? fun b => windowsChar b == c

/-! ## UTF-16 -/

/-- The unit of two bytes, the more significant byte last or first. -/
def joinBytes (bigEndian : Bool) (a b : UInt8) : Nat :=
  if bigEndian then a.toNat * 256 + b.toNat else b.toNat * 256 + a.toNat

/-- The two bytes of a unit. -/
def splitUnit (bigEndian : Bool) (u : Nat) : List UInt8 :=
  let high := UInt8.ofNat (u / 256)
  let low := UInt8.ofNat (u % 256)
  if bigEndian then [high, low] else [low, high]

/-- Bytes grouped into units; an odd byte is left over by no text. -/
def unitsOfBytes? (bigEndian : Bool) : List UInt8 → Option (List Nat)
  | [] => some []
  | [_] => none
  | a :: b :: rest => (unitsOfBytes? bigEndian rest).map (joinBytes bigEndian a b :: ·)

/-! ## Texts and bytes -/

/-- The text without one byte-order mark at its start. -/
def dropMark (s : String) : String :=
  match s.toList with
  | c :: cs => if c.toNat == 0xFEFF then String.ofList cs else s
  | [] => s

/-- **Strict decoding**: the text that the bytes stand for, without one byte-order mark. -/
def decode? (e : Encoding) (bytes : ByteArray) : Option String :=
  match e with
  | utf8 => (String.fromUTF8? bytes).map dropMark
  | utf16le => ((unitsOfBytes? false bytes.toList).bind ofUnits?).map dropMark
  | utf16be => ((unitsOfBytes? true bytes.toList).bind ofUnits?).map dropMark
  | windows1252 => some (String.ofList (bytes.toList.map windowsChar))

/-- **Encoding**: the bytes that a text is written as, without a byte-order mark. -/
def encode? (e : Encoding) (s : String) : Option ByteArray :=
  match e with
  | utf8 => some s.toUTF8
  | utf16le => some ((units s).flatMap (splitUnit false)).toByteArray
  | utf16be => some ((units s).flatMap (splitUnit true)).toByteArray
  | windows1252 => (s.toList.mapM windowsByte?).map List.toByteArray

end Encoding

/-! ## Uploads -/

/-- **Why an upload has no text**: its label names no encoding, or its bytes are no text of the
encoding that the label names. -/
inductive DecodeError where
  | unknownLabel (label : String)
  | malformed (label : String)
deriving DecidableEq, Repr

/-- What a caller is told about an upload without text. -/
def DecodeError.message : DecodeError → String
  | unknownLabel label => s!"Unsupported encoding '{label}'"
  | malformed label => s!"The file is not valid {label} text"

/-- **Strict decoders by their labels**, for the encodings that a runtime knows besides these four.
A label is looked up without the blanks around it and in small letters. -/
abbrev Decoders := String → Option (ByteArray → Option String)

/-- The decoder that a label names. -/
def decoder? (others : Decoders) (label : String) : Option (ByteArray → Option String) :=
  match Encoding.ofLabel? label with
  | some e => some e.decode?
  | none => others (Encoding.normalLabel label)

/-- **The text of an upload** under the encoding that its label names. -/
def decodeUpload (others : Decoders) (label : String) (bytes : ByteArray) :
    Except DecodeError String :=
  match decoder? others label with
  | none => .error (.unknownLabel label)
  | some decode =>
    match decode bytes with
    | none => .error (.malformed label)
    | some text => .ok text

end QuizOverrides
