import ObjectStorage.Text.Digit
import ObjectStorage.Text.Printable

/-!
# Quoted text

The quoted form of a text or of bytes, as error texts and descriptions show it. The quote is the
apostrophe, unless the text holds apostrophes and no double quote (`quoteOf`). The quote and the
backslash stand behind a backslash, the three common controls have letters, and any other code point
that is not that of a printable character is written by its number.
-/

namespace ObjectStorage.Text

def quoteOf (text : List Char) : Char :=
  if text.contains '\'' && !text.contains '"' then '"' else '\''

/-- The escape of a code point by the shortest of the three hexadecimal forms that hold its
number. -/
def codePointEscape (point : CodePoint) : List Char :=
  let n := point.value
  if n < 0x100 then '\\' :: 'x' :: paddedHex 2 n
  else if n < 0x10000 then '\\' :: 'u' :: paddedHex 4 n
  else '\\' :: 'U' :: paddedHex 8 n

def quotedPoint (quote : Char) : CodePoint → List Char
  | .char c =>
    if c == quote || c == '\\' then ['\\', c]
    else if c == '\t' then ['\\', 't']
    else if c == '\n' then ['\\', 'n']
    else if c == '\r' then ['\\', 'r']
    else if isPrintable c then [c]
    else codePointEscape c
  | .half offset => codePointEscape (.half offset)

/-- The quoted form of a text. It has characters only. -/
def quoted (text : Text) : Text :=
  let quote := quoteOf text.chars
  .ofChars (quote :: text.points.flatMap (quotedPoint quote) ++ [quote])

/-- One byte between quotes: printable ASCII as it is, any other by its value. -/
def quotedByte (quote : Char) (byte : UInt8) : List Char :=
  let c := Char.ofNat byte.toNat
  if c == quote || c == '\\' then ['\\', c]
  else if c == '\t' then ['\\', 't']
  else if c == '\n' then ['\\', 'n']
  else if c == '\r' then ['\\', 'r']
  else if 32 ≤ byte.toNat && byte.toNat < 127 then [c]
  else '\\' :: 'x' :: hexByte byte

/-- The quoted form of bytes, marked by the letter b. -/
def quotedBytes (bytes : List UInt8) : Text :=
  let quote := quoteOf (bytes.map fun byte => Char.ofNat byte.toNat)
  .ofChars ('b' :: quote :: bytes.flatMap (quotedByte quote) ++ [quote])

example : quoted "it's" = "\"it's\"" := by decide
example : quoted "a\tb\\" = "'a\\tb\\\\'" := by decide

end ObjectStorage.Text
