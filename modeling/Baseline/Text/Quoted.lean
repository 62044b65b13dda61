import Baseline.Text.Property.Printable

/-!
# Quoted texts

A quoted text stands between single quotes, or between double quotes when it holds a single quote
and no double one. The quote and the backslash are escaped, and so is every character that is not
printable, by its shortest numeric escape.
-/

namespace Baseline.Text

open Property

/-- The lower-case hexadecimal digits of a number, filled up with zeros to a width. -/
def hex (width n : Nat) : List Char :=
  let digits := Nat.toDigits 16 n
  List.replicate (width - digits.length) '0' ++ digits

/-- The numeric escape of a code point, as short as the code point allows. -/
def numericEscape (n : Nat) : List Char :=
  if n ≤ 0xff then '\\' :: 'x' :: hex 2 n
  else if n ≤ 0xffff then '\\' :: 'u' :: hex 4 n
  else '\\' :: 'U' :: hex 8 n

/-- How a character is written between two quotes. -/
def escapedIn (quote c : Char) : List Char :=
  if c == quote || c == '\\' then ['\\', c]
  else if c == '\t' then ['\\', 't']
  else if c == '\n' then ['\\', 'n']
  else if c == '\r' then ['\\', 'r']
  else if isPrintable c then [c]
  else numericEscape c.toNat

/-- The double quote when only it is free, the single quote otherwise. -/
def quoteFor (cs : List Char) : Char :=
  if cs.contains '\'' && !cs.contains '"' then '"' else '\''

/-- The text between quotes, with escapes. -/
def quote (cs : List Char) : List Char :=
  let mark := quoteFor cs
  mark :: cs.flatMap (escapedIn mark) ++ [mark]

/-- The text between quotes, with escapes. -/
def quoted (s : String) : String :=
  String.ofList (quote s.toList)

/-- How a byte is written between two quotes: as the character when it is printable ASCII. -/
def escapedByteIn (mark : Char) (byte : UInt8) : List Char :=
  let c := Char.ofNat byte.toNat
  if byte < 0x80 then escapedIn mark c else numericEscape byte.toNat

/-- Bytes between quotes, with escapes. -/
def quotedBytes (bytes : List UInt8) : String :=
  let mark := quoteFor (bytes.map fun byte => Char.ofNat byte.toNat)
  String.ofList (mark :: bytes.flatMap (escapedByteIn mark) ++ [mark])

end Baseline.Text
