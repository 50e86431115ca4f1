import StreamBridge.Channel
import StreamBridge.Record
import StreamBridge.Broker.Basic
import StreamBridge.Source.Params

/-! The reader of a source: it hands out records in the order of delivery, and takes
acknowledgements in that order only.

Two locks guard it, each a line of the calls that want it; the head of a line holds the lock. The
channel's line serves one read at a time. The gate serves one acknowledgement, or the teardown. -/

namespace StreamBridge

/-- A record that was handed out and is not acknowledged yet. -/
structure Pending (ρ : Type) where
  token : Token
  delivery : Delivery ρ

/-- Where a reader is in its life. -/
inductive Lifecycle where
  | created
  | running
  | stopped
deriving DecidableEq, Repr

/-- A reader over a consumer. `port` names its channel to the broker. `pending` lists the records to
be acknowledged, oldest first. -/
structure Reader (ρ : Type) where
  consumer : Consumer
  subject : String
  port : Nat
  channel : Channel (Delivery ρ)
  subscribed : Bool
  pending : List (Pending ρ)
  started : Bool
  stopped : Bool
  channelLine : List Nat
  gateLine : List Nat

namespace Reader

variable {β ρ : Type}

/-- A reader that has read nothing yet. -/
def fresh (port : Nat) (consumer : Consumer) (params : SourceParams) : Reader ρ where
  consumer := consumer
  subject := params.subject
  port := port
  channel := .fresh params.capacity
  subscribed := true
  pending := []
  started := false
  stopped := false
  channelLine := []
  gateLine := []

/-- Attaches a reader to a stream: makes its consumer and subscribes to it. A position that cannot
be read is refused before the broker is asked for anything. -/
def attach [Broker β ρ] (port : Nat) (params : SourceParams) :
    Request β SourceError (Reader ρ) := do
  let config ← liftExcept params.consumerConfig
  let consumer ← Request.mapError .broker do
    Broker.openContext
    Broker.createConsumer params.stream config
  Request.mapError .broker (Broker.subscribe port params.subject consumer)
  return fresh port consumer params

/-- Where the reader is in its life. -/
def lifecycle (reader : Reader ρ) : Lifecycle :=
  if reader.stopped then .stopped else if reader.started then .running else .created

/-- Whether records wait for acknowledgements. -/
def tracks (reader : Reader ρ) : Bool := reader.consumer.config.ackPolicy != .none

/-- The position after a message. -/
def position (reader : Reader ρ) (metadata : Metadata) : Position where
  durable := reader.consumer.name
  stream := reader.consumer.stream
  subject := reader.subject
  timestamp := metadata.timestamp
  next := metadata.sequence + 1

/-- When a record was made: the epoch stands for a time that the broker did not give. -/
def createdAt (metadata : Metadata) : CreatedAt :=
  if metadata.timestamp = .epoch then .whenRead else .stored metadata.timestamp

/-- The record of a message. -/
def record (reader : Reader ρ) (delivery : Delivery ρ) : Except SourceError Record :=
  match delivery.metadata with
  | .error error => .error (.broker error)
  | .ok metadata =>
    .ok ⟨(reader.position metadata).encode, createdAt metadata, ⟨none, delivery.payload⟩⟩

/-- Notes a record that was handed out. -/
def track (reader : Reader ρ) (token : Token) (delivery : Delivery ρ) : Reader ρ :=
  if reader.tracks then { reader with pending := reader.pending ++ [⟨token, delivery⟩] }
  else reader

/-- Whether a message is there to be read at once. A stopped reader has none; while a read waits,
the channel is empty. -/
def hasNext (reader : Reader ρ) : Bool × Reader ρ :=
  if reader.stopped then (false, reader)
  else
    (reader.channelLine.isEmpty && !reader.channel.buffer.isEmpty,
      { reader with started := true })

/-- Whether nothing can arrive any more: the channel is closed, or no sender is left. -/
def hungUp (reader : Reader ρ) (fed : Bool) : Bool :=
  reader.channel.closed || (!fed && reader.channel.line.isEmpty)

end Reader
end StreamBridge
