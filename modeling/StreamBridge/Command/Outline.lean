import StreamBridge.Relay.Run
import StreamBridge.Settings.Load

/-! Outlines of errors, as the command line reports them: the nested cases of an error by name, with
their texts in quotes. -/

namespace StreamBridge.Outline

/-- A case with what it holds. -/
def case (name inner : String) : String := name ++ "(" ++ inner ++ ")"

/-- A case with named parts. -/
def record (name : String) (parts : List (String × String)) : String :=
  name ++ " \x7b " ++ String.intercalate ", " (parts.map fun (part, value) => part ++ ": " ++ value)
    ++ " \x7d"

/-- A byte inside a quoted byte string. -/
def quotedByte (byte : UInt8) : List Char :=
  let hex (value : Nat) : Char := Char.ofNat (Ascii.hexDigit value).toNat
  match byte with
  | Ascii.lineFeed => ['\\', 'n']
  | Ascii.carriageReturn => ['\\', 'r']
  | Ascii.tab => ['\\', 't']
  | Ascii.backslash => ['\\', '\\']
  | Ascii.quote => ['\\', '"']
  | Ascii.nul => ['\\', '0']
  | byte =>
    if 0x20 ≤ byte && byte < 0x7f then [Char.ofNat byte.toNat]
    else ['\\', 'x', hex (byte.toNat / 16), hex (byte.toNat % 16)]

/-- A byte string in quotes. -/
def quotedBytes (bytes : Bytes) : String :=
  String.ofList (['b', '"'] ++ bytes.flatMap quotedByte ++ ['"'])

/-- The outline of a token. -/
def token (token : Token) : String := case "PositionToken" (quotedBytes token.bytes)

/-- The outline of a refused JSON text; one that is refused as a whole stands at line 0. -/
def readError (error : Json.ReadError) : String :=
  let place := error.place.getD ⟨0, 0⟩
  case "Error" (Text.quoted error.reason.message
    ++ ", line: " ++ toString place.line ++ ", column: "
    ++ toString place.column)

/-- The name of a broker's failure. -/
def action : BrokerAction → String
  | .connect => "Connection"
  | .openContext => "StreamContext"
  | .createConsumer => "ConsumerCreate"
  | .subscribe => "Subscribe"
  | .unsubscribe => "Unsubscribe"
  | .deleteConsumer => "DeleteConsumer"
  | .readMetadata => "Metadata"
  | .acknowledge => "Ack"
  | .publish => "Publish"

/-- The outline of a failure at a broker. -/
def brokerError : BrokerError → String
  | .failed failed reason => case (action failed) (Text.quoted reason)
  | .closed => "Closed"

/-- The outline of a failure of a source. -/
def sourceError : SourceError → String
  | .badPosition error => case "Config" (case "Decoding" (readError error))
  | .nothingPending requested => record "NoUnacknowledged" [("requested", token requested)]
  | .outOfOrder requested head =>
    record "OutOfOrderAck" [("requested", token requested), ("head", token head)]
  | .cancelled => "Cancelled"
  | .stopped => "Stopped"
  | .badRecord error => case "Position" (case "Decoding" (readError error))
  | .broker error => case "Broker" (brokerError error)

/-- The outline of a failure of a destination. -/
def writeError : WriteError → String
  | .batched size => record "NotImplemented" [("batch_size", toString size)]
  | .publish error => case "Publish" (brokerError error)
  | .broker error => case "Broker" (brokerError error)

/-- The outline of a place where bytes are no text. -/
def utf8Fault (fault : Utf8.Fault) : String :=
  record "Utf8Error"
    [("valid_up_to", toString fault.index),
     ("error_len", fault.width.elim "None" fun width => case "Some" (toString width))]

/-- The outline of a failure of a relay of lines. -/
def lineError : LineError → String
  | .malformed line fault =>
    let bytes := "[" ++ String.intercalate ", " (line.map fun byte => toString byte.toNat) ++ "]"
    record "Custom" [("kind", "InvalidData"),
      ("error", record "FromUtf8Error" [("bytes", bytes), ("error", utf8Fault fault)])]
  | .write error => writeError error

/-- The outline of a failure of a run. -/
def runError : RunError → String
  | .settings fault => case "Invalid" (Text.quoted fault.reason)
  | .connect error => brokerError error
  | .source error => sourceError error
  | .destination error => lineError error

/-- The outline of settings that cannot be loaded. -/
def loadError (error : LoadError) : String := case "Load" (error.reason?.getD "")

end StreamBridge.Outline
