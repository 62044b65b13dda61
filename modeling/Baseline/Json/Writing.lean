import Baseline.Report.Listing

/-!
# Writing listings as JSON

The lines of files are written as a JSON object with one space of indentation for each level, in
ASCII: any other character is escaped, one outside the first 65536 as a pair.
-/

namespace Baseline.Json

/-- The escape of a number below 65536. -/
def escapeUnit (n : Nat) : List Char :=
  let digits := Nat.toDigits 16 n
  '\\' :: 'u' :: List.replicate (4 - digits.length) '0' ++ digits

/-- How a character is written within quotes. -/
def escaped (c : Char) : List Char :=
  let n := c.toNat
  if c == '"' then ['\\', '"']
  else if c == '\\' then ['\\', '\\']
  else if c == '\n' then ['\\', 'n']
  else if c == '\r' then ['\\', 'r']
  else if c == '\t' then ['\\', 't']
  else if c == '\x08' then ['\\', 'b']
  else if c == '\x0c' then ['\\', 'f']
  else if 0x20 ≤ n && n ≤ 0x7e then [c]
  else if n < 0x10000 then escapeUnit n
  else
    escapeUnit (0xd800 + (n - 0x10000) / 0x400) ++ escapeUnit (0xdc00 + (n - 0x10000) % 0x400)

/-- A text within quotes. -/
def writeText (s : String) : List Char :=
  '"' :: s.toList.flatMap escaped ++ ['"']

/-- A line break and the indentation of a level. -/
def newline (level : Nat) : List Char :=
  '\n' :: List.replicate level ' '

/-- Items between brackets at a level, each on a line of its own. -/
def writeBlock (opening closing : Char) (level : Nat) (items : List (List Char)) : List Char :=
  match items with
  | [] => [opening, closing]
  | first :: rest =>
    opening :: newline (level + 1) ++ first ++
      rest.flatMap (fun item => ',' :: newline (level + 1) ++ item) ++ newline level ++ [closing]

/-- Line numbers as a list at a level. -/
def writeLines (level : Nat) (lines : List Int) : List Char :=
  writeBlock '[' ']' level (lines.map fun line => (toString line).toList)

/-- The lines of files as an object. -/
def writeFileLines (files : FileLines) : List Char :=
  writeBlock '\x7b' '\x7d' 0
    (files.map fun (key, lines) => writeText key ++ ": ".toList ++ writeLines 1 lines)

end Baseline.Json
