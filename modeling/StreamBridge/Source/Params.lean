import StreamBridge.Consumer
import StreamBridge.Source.Error

/-! What a source is opened with, and the consumer that this asks for. -/

namespace StreamBridge

/-- What a source is opened with. `position` is where to resume; the empty token starts afresh, as
`deliverPolicy` says. -/
structure SourceParams where
  bufferSize : Nat
  durable : String
  stream : String
  subject : String
  position : Token
  deliverPolicy : DeliverPolicy
  ackPolicy : AckPolicy
deriving DecidableEq, Inhabited

namespace SourceParams

/-- Where the consumer starts: at the sequence of a resumable position, else as configured. -/
def startPolicy (params : SourceParams) (position : Position) : DeliverPolicy :=
  if position.isResumable then .byStartSequence position.next else params.deliverPolicy

/-- The consumer that a source asks for. -/
def consumerConfig (params : SourceParams) : Except SourceError ConsumerConfig :=
  match Position.decode params.position with
  | .error error => .error (.badPosition error)
  | .ok position => .ok
    { durableName := params.durable
      deliverSubject := params.durable ++ "." ++ params.stream
      deliverPolicy := params.startPolicy position
      ackPolicy := params.ackPolicy
      replayPolicy := .instant
      flowControl := true
      idleHeartbeat := heartbeatInterval }

/-- How many messages the delivery channel holds: at least one. -/
def capacity (params : SourceParams) : Nat := max params.bufferSize 1

end SourceParams
end StreamBridge
