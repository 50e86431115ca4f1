import StreamBridge.Base64
import StreamBridge.Record

/-! Records as lines of text: one JSON object each, with the payload in Base64 so that a line holds
no line feed but its last byte. -/

namespace StreamBridge

/-- A text of bytes in quotes; they need no escapes. -/
def Json.writePlain (text : Bytes) : Bytes := Ascii.quote :: text ++ [Ascii.quote]

/-- The line of a record that is read at `now`. -/
def Record.line (now : Timestamp) (record : Record) : Bytes :=
  Json.writeObject
    [("created_at", Json.writeText (record.createdAt.resolve now).text),
     ("payload", Json.writePlain (Base64.encode record.payload.after)),
     ("position", Json.writeText record.position.display)] ++ [Ascii.lineFeed]

end StreamBridge
