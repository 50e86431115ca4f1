import StreamBridge.Record
import StreamBridge.Broker.Basic
import StreamBridge.Destination.Error
import StreamBridge.Destination.Params

/-! The writer of a destination: it publishes records one by one. -/

namespace StreamBridge

/-- A writer. Its connection is there to be closed once. -/
structure Writer where
  subject : String
  batchSize : Nat
  options : PublishOptions
  connected : Bool
deriving DecidableEq

namespace Writer

variable {β ρ : Type}

/-- Attaches a writer to a broker. -/
def attach [Broker β ρ] (params : DestinationParams) : Request β WriteError Writer := do
  Request.mapError .broker Broker.openContext
  return ⟨params.subject, params.batchSize, params.options, true⟩

/-- Publishes what is new in a record. Batches of more than one record are refused. -/
def write [Broker β ρ] (record : Record) (writer : Writer) : Request β WriteError Unit := do
  if 1 < writer.batchSize then throw (.batched writer.batchSize)
  Request.mapError .publish
    (Broker.publish writer.subject record.payload.after writer.options)

/-- Closes the connection, the first time. -/
def close [Broker β ρ] (writer : Writer) (broker : β) : (Except WriteError Unit × Writer) × β :=
  if writer.connected then
    let (result, broker) := (Broker.close (β := β)).make broker
    ((result.mapError .broker, { writer with connected := false }), broker)
  else ((.ok (), writer), broker)

end Writer
end StreamBridge
