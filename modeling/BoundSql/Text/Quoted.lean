import BoundSql.Text.CodeRanges
import BoundSql.Text.PrintableRanges

/-!
# Quoted texts

A text is shown between single quotes, or between double quotes when it holds a
single quote and no double one. The quote in use and the backslash are escaped
with a backslash, line breaks and tabs have letters, and every other character
that is not printable is written by its code in lower-case hexadecimal digits.
-/

namespace BoundSql.Text

/-- Whether a character is printed as it is. -/
def isPrintable (c : Char) : Bool :=
  !inRanges unprintableRanges c.toNat

/-- Whether a character is a printable one of ASCII. -/
def isPlainAscii (c : Char) : Bool :=
  0x20 ≤ c.toNat && c.toNat < 0x7F

/-- The number in lower-case hexadecimal digits, with zeros in front up to the width. -/
def hexadecimal (width n : Nat) : List Char :=
  let digits := Nat.toDigits 16 n
  List.replicate (width - digits.length) '0' ++ digits

/-- The shortest of the three numeric escapes that has room for the code point. -/
def codeEscape (n : Nat) : List Char :=
  if n < 0x100 then ['\\', 'x'] ++ hexadecimal 2 n
  else if n < 0x10000 then ['\\', 'u'] ++ hexadecimal 4 n
  else ['\\', 'U'] ++ hexadecimal 8 n

/-- A character as it is written between quotes. -/
def escapedChar (printable : Char → Bool) (quote c : Char) : List Char :=
  if c = quote || c = '\\' then ['\\', c]
  else if c = '\n' then ['\\', 'n']
  else if c = '\r' then ['\\', 'r']
  else if c = '\t' then ['\\', 't']
  else if printable c then [c]
  else codeEscape c.toNat

/-- The quote that a text is put between. -/
def quoteFor (text : List Char) : Char :=
  if text.contains '\x27' && !text.contains '"' then '"' else '\x27'

/-- A text between quotes, with the given characters printed as they are. -/
def quotedBy (printable : Char → Bool) (text : List Char) : List Char :=
  let quote := quoteFor text
  [quote] ++ text.flatMap (escapedChar printable quote) ++ [quote]

/-- A text between quotes. -/
def quoted (text : String) : String :=
  String.ofList (quotedBy isPrintable text.toList)

/-- Bytes between quotes behind the letter `b`, those outside printable ASCII escaped. -/
def quotedBytes (bytes : List UInt8) : String :=
  "b" ++ String.ofList (quotedBy isPlainAscii (bytes.map fun b => Char.ofNat b.toNat))

/-- A quoted text begins and ends with its quote. -/
theorem quotedBy_ends (printable : Char → Bool) (text : List Char) :
    (quotedBy printable text).head? = some (quoteFor text) ∧
      (quotedBy printable text).getLast? = some (quoteFor text) := by
  constructor
  · rfl
  · exact List.getLast?_concat

end BoundSql.Text
