import StreamBridge.Relay.Happening
import StreamBridge.Relay.Input
import StreamBridge.Text.Utf8
import StreamBridge.Destination.Writer

/-! The relay from the input to a destination. Each line is published as one message, once it is
found to be well-formed text; a cancellation is seen before the next line. -/

namespace StreamBridge

/-- A failure of a relay of lines. -/
inductive LineError where
  /-- A line is no well-formed text. -/
  | malformed (line : Bytes) (fault : Utf8.Fault)
  | write (error : WriteError)

/-- The report of a failure. -/
def LineError.message : LineError → String
  | .malformed _ fault => fault.message
  | .write error => error.message

/-- A relay of lines at work. `result` is there once it has ended. -/
structure LineRelay (β : Type) where
  broker : β
  writer : Writer
  input : Input
  cancelled : Bool
  result : Option (Except LineError Unit)

namespace LineRelay

variable {β ρ : Type}

/-- A relay that has not begun. -/
def start (writer : Writer) (broker : β) : LineRelay β := ⟨broker, writer, ⟨[], false⟩, false, none⟩

/-- Whether a relay has ended. -/
def hasEnded (relay : LineRelay β) : Bool := relay.result.isSome

/-- Ends a relay. -/
def finish (result : Except LineError Unit) (relay : LineRelay β) : LineRelay β :=
  { relay with result := some result }

/-- Publishes a line. -/
def publish [Broker β ρ] (line : Bytes) (relay : LineRelay β) : LineRelay β :=
  match Utf8.decode line with
  | .error fault => relay.finish (.error (.malformed line fault))
  | .ok _ =>
    match (relay.writer.write (.withPayload line)).make relay.broker with
    | (.ok (), broker) => { relay with broker := broker }
    | (.error error, broker) =>
      LineRelay.finish (.error (.write error)) { relay with broker := broker }

/-- Takes a turn; tells whether there was something to do. -/
def turn [Broker β ρ] (relay : LineRelay β) : Bool × LineRelay β :=
  if relay.hasEnded then (false, relay)
  else if relay.cancelled then (true, relay.finish (.ok ()))
  else match relay.input.next with
    | .waiting => (false, relay)
    | .atEnd => (true, relay.finish (.ok ()))
    | .line content rest => (true, LineRelay.publish content { relay with input := rest })

/-- Takes turns until there is nothing to do, at most `count`. -/
def turnsFor [Broker β ρ] : Nat → LineRelay β → LineRelay β
  | 0, relay => relay
  | count + 1, relay =>
    match relay.turn with
    | (true, relay) => turnsFor count relay
    | (false, relay) => relay

/-- Takes turns until there is nothing to do: a line takes at least one byte, and one turn ends the
relay. -/
def turns [Broker β ρ] (relay : LineRelay β) : LineRelay β :=
  relay.turnsFor (relay.input.unread.length + 1)

/-- The relay after a happening. -/
def after [Broker β ρ] (relay : LineRelay β) : Happening β ρ → LineRelay β
  | .input bytes =>
    { relay with input := { relay.input with unread := relay.input.unread ++ bytes } }
  | .inputEnds => { relay with input := { relay.input with ended := true } }
  | .change apply => { relay with broker := apply relay.broker }
  | .cancel => { relay with cancelled := true }
  | .turn => relay.turn.2
  | .turns => relay.turns
  | .deliver _ => relay

/-- One step of a schedule. A relay that has ended sees no more. -/
def step [Broker β ρ] (relay : LineRelay β) (happening : Happening β ρ) : LineRelay β :=
  if relay.hasEnded then relay else relay.after happening

/-- Runs a relay through a schedule, until it ends. -/
def run [Broker β ρ] (schedule : List (Happening β ρ)) (relay : LineRelay β) : LineRelay β :=
  schedule.foldl step relay

end LineRelay
end StreamBridge
