import Baseline.Text.Quoted

/-!
# UTF-8

Bytes are cut into pieces: a well-formed character, or a maximal part that begins one without
completing it. A strict reader stops at the first ill-formed piece; a lenient one shows each of them
as one replacement character.
-/

namespace Baseline.Text.Utf8

/-- What is wrong with an ill-formed piece. -/
inductive Fault where
  | invalidStart
  | invalidContinuation
  | unexpectedEnd
  deriving DecidableEq, Repr

/-- The wording of a fault. -/
def Fault.message : Fault → String
  | .invalidStart => "invalid start byte"
  | .invalidContinuation => "invalid continuation byte"
  | .unexpectedEnd => "unexpected end of data"

/-- One character or one maximal ill-formed part, with the number of bytes it takes. -/
inductive Piece where
  | character (c : Char) (width : Nat)
  | illFormed (fault : Fault) (width : Nat)
  deriving DecidableEq, Repr

/-- The number of bytes of a piece. -/
def Piece.width : Piece → Nat
  | .character _ width => width
  | .illFormed _ width => width

/-- The character of a piece, the replacement character for an ill-formed one. -/
def Piece.shown : Piece → Char
  | .character c _ => c
  | .illFormed _ _ => '\ufffd'

/-- The number of bytes of a character that starts with this byte and the range of its second
byte. -/
def lead? (byte : UInt8) : Option (Nat × UInt8 × UInt8) :=
  if byte < 0xc2 then none
  else if byte < 0xe0 then some (2, 0x80, 0xbf)
  else if byte == 0xe0 then some (3, 0xa0, 0xbf)
  else if byte == 0xed then some (3, 0x80, 0x9f)
  else if byte < 0xf0 then some (3, 0x80, 0xbf)
  else if byte == 0xf0 then some (4, 0x90, 0xbf)
  else if byte < 0xf4 then some (4, 0x80, 0xbf)
  else if byte == 0xf4 then some (4, 0x80, 0x8f)
  else none

/-- Reads `missing` more bytes, the next one between `low` and `high` and those after it any
continuation bytes; `code` holds the bits read so far and `width` the bytes. -/
def completed (code width : Nat) : Nat → UInt8 → UInt8 → List UInt8 → Piece
  | 0, _, _, _ => .character (Char.ofNat code) width
  | _ + 1, _, _, [] => .illFormed .unexpectedEnd width
  | missing + 1, low, high, byte :: rest =>
    if low ≤ byte && byte ≤ high then
      completed (code * 0x40 + byte.toNat % 0x40) (width + 1) missing 0x80 0xbf rest
    else .illFormed .invalidContinuation width

/-- The piece at the start of `byte :: rest`. -/
def firstPiece (byte : UInt8) (rest : List UInt8) : Piece :=
  if byte < 0x80 then .character (Char.ofNat byte.toNat) 1
  else match lead? byte with
    | none => .illFormed .invalidStart 1
    | some (size, low, high) =>
      completed (byte.toNat % (1 <<< (7 - size))) 1 (size - 1) low high rest

/-- The pieces after the first `skip` bytes, put before the reversed pieces `done`. -/
def piecesFrom (skip : Nat) (done : List Piece) : List UInt8 → List Piece
  | [] => done.reverse
  | byte :: rest =>
    match skip with
    | skip + 1 => piecesFrom skip done rest
    | 0 =>
      let piece := firstPiece byte rest
      piecesFrom (piece.width - 1) (piece :: done) rest

/-- The pieces of a sequence of bytes. -/
def pieces (bytes : List UInt8) : List Piece :=
  piecesFrom 0 [] bytes

/-- The text with one replacement character for each ill-formed part. -/
def decodeReplacing (bytes : List UInt8) : List Char :=
  (pieces bytes).map Piece.shown

/-- Where strict reading stops: the place and the bytes of the first ill-formed part. -/
structure Malformed where
  offset : Nat
  width : Nat
  lead : UInt8
  fault : Fault
  deriving DecidableEq, Repr

/-- The wording of where and why strict reading stops. -/
def Malformed.message (m : Malformed) : String :=
  if m.width == 1 then
    "'utf-8' codec can't decode byte 0x" ++ String.ofList (hex 2 m.lead.toNat) ++
      s!" in position {m.offset}: {m.fault.message}"
  else
    s!"'utf-8' codec can't decode bytes in position {m.offset}-{m.offset + m.width - 1}: " ++
      m.fault.message

/-- The characters of the pieces, unless one of them is ill-formed; `bytes` are what remains. -/
def strictly (offset : Nat) (bytes : List UInt8) (done : List Char) :
    List Piece → Except Malformed (List Char)
  | [] => .ok done.reverse
  | .character c width :: rest => strictly (offset + width) (bytes.drop width) (c :: done) rest
  | .illFormed fault width :: _ => .error ⟨offset, width, bytes.headD 0, fault⟩

/-- The text, if every byte belongs to a well-formed character. -/
def decode (bytes : List UInt8) : Except Malformed (List Char) :=
  strictly 0 bytes [] (pieces bytes)

/-- The bytes of a text. -/
def encode (cs : List Char) : List UInt8 :=
  cs.flatMap String.utf8EncodeChar

end Baseline.Text.Utf8
