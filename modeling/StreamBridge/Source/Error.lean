import StreamBridge.Position
import StreamBridge.Broker.Error

/-! What can go wrong when a source reads and acknowledges. -/

namespace StreamBridge

/-- A failure of a source. -/
inductive SourceError where
  /-- The position to resume from cannot be read. -/
  | badPosition (error : Json.ReadError)
  /-- An acknowledgement came while nothing was pending. -/
  | nothingPending (requested : Token)
  /-- An acknowledgement named another record than the oldest pending one. -/
  | outOfOrder (requested head : Token)
  | cancelled
  | stopped
  /-- The position of a record cannot be made. -/
  | badRecord (error : Json.ReadError)
  | broker (error : BrokerError)

/-- The report of a failure. -/
def SourceError.message : SourceError → String
  | .badPosition error => "get consumer config: " ++ Position.decodeMessage error
  | .nothingPending requested =>
    "message cannot be acknowledged: requested ack for " ++ requested.display
      ++ " but no unacknowledged messages found"
  | .outOfOrder requested head =>
    "message cannot be acknowledged: ack is out-of-order, requested ack for " ++ requested.display
      ++ ", but first unacknowledged message is " ++ head.display
  | .cancelled => "read cancelled"
  | .stopped => "iterator stopped"
  | .badRecord error => "convert message to record: " ++ Position.decodeMessage error
  | .broker error => error.message

/-- The report of the failure behind one that adds words of its own. -/
def SourceError.cause? : SourceError → Option String
  | .badPosition error | .badRecord error => some (Position.decodeMessage error)
  | .nothingPending _ | .outOfOrder _ _ | .cancelled | .stopped | .broker _ => none

end StreamBridge
