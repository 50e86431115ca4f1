import StreamBridge.Broker.Basic
import StreamBridge.Decimal.Integer
import StreamBridge.Text.Split

/-! Reply subjects of delivered messages. A JetStream server writes into them what it knows about
the message; answering there acknowledges it. -/

namespace StreamBridge.Nats

/-- Why a message's metadata cannot be read from its reply subject. -/
inductive ReplyFault where
  | missing
  | foreign
  | badCount
  | tooFew
  | badNumber (fault : Decimal.Fault)
  /-- The time lies outside the years from -9999 to 9999. -/
  | badTime
deriving DecidableEq, Repr

/-- The report of a fault. -/
def ReplyFault.message : ReplyFault → String
  | .missing => "did not found reply subject"
  | .foreign => "did not found proper prefix"
  | .badCount => "bad token number"
  | .tooFew => "too few tokens"
  | .badNumber fault => fault.message
  | .badTime => "timestamp was not in range"

namespace Reply

/-- What the reply subjects of a JetStream server start with. -/
def start : List Char := "$JS.ACK.".toList

/-- The first and the last second of the years that a time may lie in. -/
def firstSecond : Int := -377705116800

/-- The last second of the years that a time may lie in. -/
def lastSecond : Int := 253402300799

/-- Reads a number of a 64-bit word. -/
def word (token : List Char) : Except ReplyFault Nat :=
  (Decimal.readUnsigned Decimal.maxWord token).mapError .badNumber

/-- Reads a signed number. -/
def signed (bits : Nat) (token : List Char) : Except ReplyFault Int :=
  (Decimal.readSigned bits token).mapError .badNumber

/-- Reads a time, in nanoseconds since the epoch. -/
def time (token : List Char) : Except ReplyFault Timestamp := do
  let total ← signed 128 token
  let seconds := total / 1000000000
  if seconds < firstSecond || lastSecond < seconds then throw .badTime
  match Timestamp.ofNanoseconds? total with
  | some moment => return moment
  | none => throw .badTime

/-- Reads the numbers of a message: how often it was delivered, its sequence in the stream and for
the consumer, its time, and how many are still to come. -/
def numbers (delivered stream consumer moment pending : List Char) :
    Except ReplyFault Metadata := do
  let _ ← signed 64 delivered
  let sequence ← word stream
  let _ ← word consumer
  let timestamp ← time moment
  let _ ← word pending
  return ⟨sequence.toUInt64, timestamp⟩

/-- Reads the tokens of a reply subject. The long form begins with a domain and an account, and has
a token of its own after the numbers; the short form has neither. -/
def readTokens : List (List Char) → Except ReplyFault Metadata
  | [_, _, delivered, stream, consumer, moment, pending] =>
    numbers delivered stream consumer moment pending
  | _ :: _ :: _ :: _ :: delivered :: stream :: consumer :: moment :: pending :: more => do
    let metadata ← numbers delivered stream consumer moment pending
    if more.isEmpty then throw .tooFew
    return metadata
  | _ => throw .badCount

/-- Reads the metadata of a message from its reply subject. -/
def metadata : Option String → Except ReplyFault Metadata
  | none => .error .missing
  | some subject =>
    let letters := subject.toList
    if start.isPrefixOf letters then readTokens (Text.splitAt '.' (letters.drop start.length))
    else .error .foreign

/-- The reply subject that a server gives a message. -/
def subject (sequence moment : String) : String :=
  "$JS.ACK.S.C.1." ++ sequence ++ ".1." ++ moment ++ ".0"

end Reply
end StreamBridge.Nats
