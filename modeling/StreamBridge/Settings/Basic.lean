import StreamBridge.Broker.Connection
import StreamBridge.Source.Params
import StreamBridge.Destination.Params

/-! The settings of a bridge: how to reach the broker, what to read, and where to write. -/

namespace StreamBridge

/-- What to read. -/
structure SourceSettings where
  subject : String
  stream : String
  durable : String
  bufferSize : Nat
  deliverPolicy : DeliverPolicy
  ackPolicy : AckPolicy
  position : Option String
deriving DecidableEq, Repr, Inhabited

/-- Where to write. `retryWait` counts milliseconds. -/
structure DestinationSettings where
  subject : String
  batchSize : Nat
  retryWait : Nat
  retryAttempts : Nat
deriving DecidableEq, Repr, Inhabited

/-- All settings. A section that is left out is absent. -/
structure Settings where
  connection : ConnectionSettings
  source : Option SourceSettings
  destination : Option DestinationSettings
deriving DecidableEq, Repr, Inhabited

namespace SourceSettings

/-- The source where nothing is set; its durable name is a generated one. -/
def default (durable : String) : SourceSettings where
  subject := ""
  stream := ""
  durable := durable
  bufferSize := 1024
  deliverPolicy := .all
  ackPolicy := .explicit
  position := none

/-- What a source is opened with under these settings. -/
def params (settings : SourceSettings) : SourceParams where
  bufferSize := settings.bufferSize
  durable := settings.durable
  stream := settings.stream
  subject := settings.subject
  position := settings.position.elim .empty .ofText
  deliverPolicy := settings.deliverPolicy
  ackPolicy := settings.ackPolicy

end SourceSettings

namespace DestinationSettings

/-- The destination where nothing is set. -/
def default : DestinationSettings where
  subject := ""
  batchSize := 1
  retryWait := 5000
  retryAttempts := 3

/-- What a destination is opened with under these settings. -/
def params (settings : DestinationSettings) : DestinationParams where
  subject := settings.subject
  batchSize := settings.batchSize
  retryWait := .ofMilliseconds settings.retryWait
  retryAttempts := settings.retryAttempts

end DestinationSettings

/-- The settings where nothing is set. -/
def Settings.default : Settings := ⟨.default, none, none⟩

end StreamBridge
