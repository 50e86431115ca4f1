import StreamBridge.Bytes

/-! UTF-8: writing a text as bytes, and reading bytes back either strictly, with the place of the
first fault, or leniently, with one replacement character for each ill-formed part. -/

namespace StreamBridge.Utf8

/-- The bytes of a text. -/
def encode (text : String) : Bytes := text.toList.flatMap String.utf8EncodeChar

/-- What stands at the front of a byte string. `width` counts the bytes of an ill-formed part: the
longest start of a well-formed sequence, and at least one byte. -/
inductive Front where
  | done
  | char (value : Char) (rest : Bytes)
  | invalid (width : Nat) (rest : Bytes)
  | incomplete (width : Nat)

/-- What a lead byte announces: the bits it carries, how many bytes follow it, and the range of
the first of them, which excludes overlong forms, surrogates and values beyond U+10FFFF. -/
structure Lead where
  bits : Nat
  following : Nat
  low : UInt8
  high : UInt8

/-- The announcement of a lead byte above ASCII, if it can start a sequence. -/
def lead? (byte : UInt8) : Option Lead :=
  if 0xc2 ≤ byte && byte ≤ 0xdf then some ⟨byte.toNat - 0xc0, 1, 0x80, 0xbf⟩
  else if byte == 0xe0 then some ⟨0, 2, 0xa0, 0xbf⟩
  else if byte == 0xed then some ⟨0xd, 2, 0x80, 0x9f⟩
  else if 0xe1 ≤ byte && byte ≤ 0xef then some ⟨byte.toNat - 0xe0, 2, 0x80, 0xbf⟩
  else if byte == 0xf0 then some ⟨0, 3, 0x90, 0xbf⟩
  else if 0xf1 ≤ byte && byte ≤ 0xf3 then some ⟨byte.toNat - 0xf0, 3, 0x80, 0xbf⟩
  else if byte == 0xf4 then some ⟨4, 3, 0x80, 0x8f⟩
  else none

/-- Reads the bytes after a lead byte; `width` bytes have been seen. -/
def follow (bits width : Nat) : Nat → UInt8 → UInt8 → Bytes → Front
  | 0, _, _, rest => .char (Char.ofNat bits) rest
  | _ + 1, _, _, [] => .incomplete width
  | following + 1, low, high, byte :: rest =>
    if low ≤ byte && byte ≤ high then
      follow (bits * 64 + (byte.toNat - 0x80)) (width + 1) following 0x80 0xbf rest
    else .invalid width (byte :: rest)

/-- Takes one character, or one ill-formed part, off the front. -/
def front : Bytes → Front
  | [] => .done
  | byte :: rest =>
    if byte < 0x80 then .char (Char.ofNat byte.toNat) rest
    else match lead? byte with
      | none => .invalid 1 rest
      | some lead => follow lead.bits 1 lead.following lead.low lead.high rest

/-- A byte string cut into characters and ill-formed parts. -/
inductive Piece where
  | char (value : Char)
  | invalid (width : Nat)
  | incomplete (width : Nat)
deriving DecidableEq, Repr

/-- Cuts at most `count` pieces off the front, adding them to the reversed list `taken`. -/
def takePieces : Nat → List Piece → Bytes → List Piece
  | 0, taken, _ => taken.reverse
  | count + 1, taken, bytes =>
    match front bytes with
    | .done => taken.reverse
    | .char value rest => takePieces count (.char value :: taken) rest
    | .invalid width rest => takePieces count (.invalid width :: taken) rest
    | .incomplete width => (.incomplete width :: taken).reverse

/-- All pieces of a byte string; it has at most one for each byte. -/
def pieces (bytes : Bytes) : List Piece := takePieces bytes.length [] bytes

/-- The character that stands for an ill-formed part. -/
def replacement : Char := '\uFFFD'

/-- The character of a piece. -/
def Piece.lenient : Piece → Char
  | .char value => value
  | .invalid _ | .incomplete _ => replacement

/-- Reads bytes leniently. -/
def decodeLossy (bytes : Bytes) : String := String.ofList ((pieces bytes).map Piece.lenient)

/-- The first ill-formed part of a byte string. `width` is absent where the bytes end inside a
sequence that more bytes could complete. -/
structure Fault where
  index : Nat
  width : Option Nat
deriving DecidableEq, Repr

/-- How a fault is reported. -/
def Fault.message (fault : Fault) : String :=
  match fault.width with
  | some width => "invalid utf-8 sequence of " ++ toString width ++ " bytes from index "
      ++ toString fault.index
  | none => "incomplete utf-8 byte sequence from index " ++ toString fault.index

/-- The characters of well-formed pieces that start at `index`, added to the reversed list
`taken`. -/
def gather (index : Nat) (taken : List Char) : List Piece → Except Fault (List Char)
  | [] => .ok taken.reverse
  | .char value :: rest => gather (index + value.utf8Size) (value :: taken) rest
  | .invalid width :: _ => .error ⟨index, some width⟩
  | .incomplete _ :: _ => .error ⟨index, none⟩

/-- Reads bytes strictly. -/
def decode (bytes : Bytes) : Except Fault String :=
  match gather 0 [] (pieces bytes) with
  | .ok letters => .ok (String.ofList letters)
  | .error fault => .error fault

end StreamBridge.Utf8
