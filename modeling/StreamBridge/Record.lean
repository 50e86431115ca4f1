import StreamBridge.Position

/-! Records: single changes on their way through the pipeline. -/

namespace StreamBridge

/-- When a record was made. A broker that gives no time leaves it to the moment of reading. -/
inductive CreatedAt where
  | stored (moment : Timestamp)
  | whenRead
deriving DecidableEq

/-- The moment that a creation time stands for, read at `now`. -/
def CreatedAt.resolve (now : Timestamp) : CreatedAt → Timestamp
  | .stored moment => moment
  | .whenRead => now

/-- The images of a change. -/
structure Payload where
  before : Option Bytes
  after : Bytes
deriving DecidableEq

/-- A change with its resume token. -/
structure Record where
  position : Token
  createdAt : CreatedAt
  payload : Payload
deriving DecidableEq

/-- A record to be published, with nothing but new data. -/
def Record.withPayload (after : Bytes) : Record := ⟨.empty, .stored .epoch, ⟨none, after⟩⟩

end StreamBridge
