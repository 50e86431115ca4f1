import StreamBridge.Json.Read
import StreamBridge.Json.Print
import StreamBridge.Time.Timestamp

/-! Where to resume reading, and the opaque token that carries it with a record. -/

namespace StreamBridge

/-- A read cursor within a stream. `next` is the sequence to resume from, one past the message that
the position was made from; zero means that there is no such message. -/
structure Position where
  durable : String
  stream : String
  subject : String
  timestamp : Timestamp
  next : UInt64
deriving DecidableEq, Inhabited

/-- An opaque position: tokens are compared byte by byte and passed on unread. -/
structure Token where
  bytes : Bytes
deriving DecidableEq, Repr, Inhabited

namespace Token

/-- The token of no position. -/
def empty : Token := ⟨[]⟩

/-- A token from its text. -/
def ofText (text : String) : Token := ⟨Utf8.encode text⟩

/-- The text of a token, with ill-formed parts replaced. -/
def display (token : Token) : String := Utf8.decodeLossy token.bytes

end Token

namespace Position

/-- The position before any message. -/
def zero : Position := ⟨"", "", "", .epoch, 0⟩

/-- Whether a position names a sequence to resume from. -/
def isResumable (position : Position) : Bool := position.next != 0

/-- Writes a position as a JSON object. -/
def encode (position : Position) : Token :=
  ⟨Json.writeObject
    [("durable", Json.writeText position.durable),
     ("stream", Json.writeText position.stream),
     ("subject", Json.writeText position.subject),
     ("timestamp", Json.writeText position.timestamp.text),
     ("opt_seq", Json.writeNatural position.next.toNat)]⟩

/-- Reads a moment written as a string. -/
def readTimestamp : Json.Reader Timestamp := fun rest => do
  let (written, rest) ← Json.text "an RFC 3339 formatted date and time string" rest
  match Timestamp.read written.toList with
  | .ok moment => .ok (moment, rest)
  | .error fault => Json.refuse (.badText fault.message) rest

/-- The members of a position read so far. -/
structure Draft where
  durable : Option String
  stream : Option String
  subject : Option String
  timestamp : Option Timestamp
  next : Option UInt64

/-- A draft without members. -/
def Draft.empty : Draft := ⟨none, none, none, none, none⟩

/-- The position of a full draft, or the name of the first member that is missing. -/
def Draft.complete (draft : Draft) : Except String Position := do
  let durable ← draft.durable.elim (.error "durable") .ok
  let stream ← draft.stream.elim (.error "stream") .ok
  let subject ← draft.subject.elim (.error "subject") .ok
  let timestamp ← draft.timestamp.elim (.error "timestamp") .ok
  let next ← draft.next.elim (.error "opt_seq") .ok
  return ⟨durable, stream, subject, timestamp, next⟩

/-- Reads a string member with `store`. -/
def textMember (name : String) (store : Draft → String → Draft) : Json.Member Draft :=
  ⟨name, fun draft rest => do
    let (value, rest) ← Json.text Json.aString rest
    .ok (store draft value, rest)⟩

/-- How a position is written. -/
def shape : Json.RecordShape Draft Position where
  expected := "struct Position"
  members :=
    [textMember "durable" fun draft value => { draft with durable := some value },
     textMember "stream" fun draft value => { draft with stream := some value },
     textMember "subject" fun draft value => { draft with subject := some value },
     ⟨"timestamp", fun draft rest => do
       let (value, rest) ← readTimestamp rest
       .ok ({ draft with timestamp := some value }, rest)⟩,
     ⟨"opt_seq", fun draft rest => do
       let (value, rest) ← Json.word Decimal.maxWord "u64" rest
       .ok ({ draft with next := some value.toUInt64 }, rest)⟩]
  start := .empty
  finish draft := draft.complete.mapError Json.Reason.missing
  finishList count draft :=
    draft.complete.mapError fun _ => .badLength count "struct Position with 5 elements"

/-- Reads a position back. The empty token is the position before any message. -/
def decode (token : Token) : Except Json.ReadError Position :=
  if token.bytes.isEmpty then .ok zero else Json.readAll shape.read token.bytes

/-- The report of a token that cannot be read. -/
def decodeMessage (error : Json.ReadError) : String := "decode position: " ++ error.message

end Position
end StreamBridge
