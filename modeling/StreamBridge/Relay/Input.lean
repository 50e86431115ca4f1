import StreamBridge.Bytes

/-! Input that is read line by line. A line ends with a line feed, and a carriage return before it
belongs to the ending; what follows the last line feed is a line once the input has ended. -/

namespace StreamBridge

/-- Input as far as it has come. -/
structure Input where
  unread : Bytes
  ended : Bool

/-- What reading a line comes to. -/
inductive NextLine where
  | line (content : Bytes) (rest : Input)
  | atEnd
  /-- More has to come first. -/
  | waiting

namespace Input

/-- Drops the carriage return before a line feed. -/
def dropReturn (line : Bytes) : Bytes :=
  if line.getLast? = some Ascii.carriageReturn then line.dropLast else line

/-- Reads the next line. -/
def next (input : Input) : NextLine :=
  match input.unread.span (· != Ascii.lineFeed) with
  | (line, _ :: rest) => .line (dropReturn line) { input with unread := rest }
  | (line, []) =>
    if !input.ended then .waiting
    else if line.isEmpty then .atEnd
    else .line line { input with unread := [] }

end Input
end StreamBridge
