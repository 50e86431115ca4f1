import StreamBridge.Consumer
import StreamBridge.Publishing
import StreamBridge.Channel
import StreamBridge.Broker.Connection
import StreamBridge.Time.Timestamp
import StreamBridge.Broker.Error

/-! What a broker offers: consumers, subscriptions that feed delivery channels, acknowledgements and
publishing. -/

namespace StreamBridge

/-- What a broker says about a message: its place in the stream, and when it was stored. -/
structure Metadata where
  sequence : UInt64
  timestamp : Timestamp
deriving DecidableEq

/-- A delivered message. `receipt` is what an acknowledgement of it names. -/
structure Delivery (ρ : Type) where
  metadata : Except BrokerError Metadata
  payload : Bytes
  receipt : ρ

/-- A request that changes a state of type `σ` and may fail. -/
abbrev Request (σ ε α : Type) := ExceptT ε (StateM σ) α

namespace Request

variable {σ ε α : Type}

/-- Makes a request. -/
def make (request : Request σ ε α) (state : σ) : Except ε α × σ := request.run state

/-- Reports the failures of a request as another kind of failure. -/
def mapError {δ : Type} (wrap : ε → δ) (request : Request σ ε α) : Request σ δ α :=
  fun state =>
    let (result, after) := request.make state
    (result.mapError wrap, after)

end Request

/-- A broker with state of type `β`, whose receipts are of type `ρ`. A port is where a subscription
delivers to: the number of a delivery channel. -/
class Broker (β : Type) (ρ : outParam Type) where
  connect (settings : ConnectionSettings) : Request β BrokerError Unit
  /-- Makes sure that streams can be reached. -/
  openContext : Request β BrokerError Unit
  createConsumer (stream : String) (config : ConsumerConfig) : Request β BrokerError Consumer
  subscribe (port : Nat) (subject : String) (consumer : Consumer) : Request β BrokerError Unit
  unsubscribe (port : Nat) : Request β BrokerError Unit
  deleteConsumer (stream name : String) : Request β BrokerError Unit
  acknowledge (receipt : ρ) : Request β BrokerError Unit
  publish (subject : String) (payload : Bytes) (options : PublishOptions) :
    Request β BrokerError Unit
  close : Request β BrokerError Unit
  /-- How long an acknowledgement takes. -/
  latency : β → Duration
  /-- Whether a subscription may still deliver to a port. -/
  feeds : β → Nat → Bool
  /-- Moves what has come for a port into its channel, as far as there is room. -/
  forward : β → Nat → Channel (Delivery ρ) → Channel (Delivery ρ) × β
  /-- How many messages have come for a port and are not in its channel yet. -/
  backlog : β → Nat → Nat

end StreamBridge
