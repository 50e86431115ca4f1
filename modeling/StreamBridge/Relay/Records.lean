import StreamBridge.Relay.Happening
import StreamBridge.Relay.Line
import StreamBridge.Source.Stop

/-! The relay from a source to the output. Each record is written as a line, and acknowledged only
once it is written; a cancellation is seen only where the next record is waited for. -/

namespace StreamBridge

/-- What a clock shows as one record after another is read. -/
structure Clock where
  shows : Nat → Timestamp

/-- A clock that stands still. -/
def Clock.epoch : Clock := ⟨fun _ => .epoch⟩

/-- Where a relay of records stands. -/
inductive RecordPhase where
  | reading
  /-- A record is written; its acknowledgement is next. -/
  | acknowledging (token : Token)
  | ended (result : Except SourceError Unit)

/-- A relay of records at work, with what it has written and for how many records. -/
structure RecordRelay (β ρ : Type) where
  broker : β
  reader : Reader ρ
  output : Bytes
  written : Nat
  cancelled : Bool
  phase : RecordPhase

namespace RecordRelay

variable {β ρ : Type}

/-- A relay that has not begun. -/
def start (reader : Reader ρ) (broker : β) : RecordRelay β ρ :=
  ⟨broker, reader, [], 0, false, .reading⟩

/-- Whether a relay has ended. -/
def hasEnded (relay : RecordRelay β ρ) : Bool :=
  match relay.phase with
  | .ended _ => true
  | .reading | .acknowledging _ => false

/-- Lets the broker fill the delivery channel. -/
def refill [Broker β ρ] (relay : RecordRelay β ρ) : RecordRelay β ρ :=
  let (channel, broker) := Broker.forward relay.broker relay.reader.port relay.reader.channel
  { relay with broker := broker, reader := { relay.reader with channel := channel } }

/-- The phase after a read, where it gave no record. A cancelled read ends the relay in order. -/
def phaseAfter : SourceError → RecordPhase
  | .cancelled => .ended (.ok ())
  | error => .ended (.error error)

/-- Reads a record at the time `now` and writes its line. -/
def readTurn [Broker β ρ] (now : Timestamp) (relay : RecordRelay β ρ) : Bool × RecordRelay β ρ :=
  let fed := Broker.feeds relay.broker relay.reader.port
  match relay.reader.read relay.cancelled fed with
  | (none, reader) => (false, { relay with reader := reader })
  | (some (.error error), reader) =>
    (true, { relay with reader := reader, phase := phaseAfter error })
  | (some (.ok record), reader) =>
    (true, { relay with
      reader := reader
      output := relay.output ++ record.line now
      written := relay.written + 1
      phase := .acknowledging record.position })

/-- Acknowledges the record that was written last. -/
def ackTurn [Broker β ρ] (token : Token) (relay : RecordRelay β ρ) : Bool × RecordRelay β ρ :=
  match relay.reader.acknowledge token relay.broker with
  | ((none, reader), broker) => (false, { relay with reader := reader, broker := broker })
  | ((some (.error error), reader), broker) =>
    (true, { relay with reader := reader, broker := broker, phase := .ended (.error error) })
  | ((some (.ok ()), reader), broker) =>
    (true, { relay with reader := reader, broker := broker, phase := .reading })

/-- Takes a turn; tells whether there was something to do. -/
def turn [Broker β ρ] (clock : Clock) (relay : RecordRelay β ρ) : Bool × RecordRelay β ρ :=
  match relay.phase with
  | .reading => relay.refill.readTurn (clock.shows relay.written)
  | .acknowledging token => relay.ackTurn token
  | .ended _ => (false, relay)

/-- Takes turns until there is nothing to do, at most `count`. -/
def turnsFor [Broker β ρ] (clock : Clock) : Nat → RecordRelay β ρ → RecordRelay β ρ
  | 0, relay => relay
  | count + 1, relay =>
    match relay.turn clock with
    | (true, relay) => turnsFor clock count relay
    | (false, relay) => relay

/-- How many messages have come and are not read yet. -/
def unread [Broker β ρ] (relay : RecordRelay β ρ) : Nat :=
  let channel := relay.reader.channel
  channel.buffer.length + channel.line.length + Broker.backlog relay.broker relay.reader.port

/-- Takes turns until there is nothing to do: two for each message, one to acknowledge what was
written before, and one to end. -/
def turns [Broker β ρ] (clock : Clock) (relay : RecordRelay β ρ) : RecordRelay β ρ :=
  relay.turnsFor clock (2 * relay.unread + 2)

/-- The relay after a happening. -/
def after [Broker β ρ] (clock : Clock) (relay : RecordRelay β ρ) :
    Happening β ρ → RecordRelay β ρ
  | .deliver delivery =>
    let (_, channel) := relay.reader.channel.send 0 delivery
    { relay with reader := { relay.reader with channel := channel } }
  | .change apply => { relay with broker := apply relay.broker }
  | .cancel => { relay with cancelled := true }
  | .turn => (relay.turn clock).2
  | .turns => relay.turns clock
  | .input _ | .inputEnds => relay

/-- One step of a schedule. A relay that has ended sees no more. -/
def step [Broker β ρ] (clock : Clock) (relay : RecordRelay β ρ) (happening : Happening β ρ) :
    RecordRelay β ρ :=
  if relay.hasEnded then relay else relay.after clock happening

/-- Runs a relay through a schedule, until it ends. -/
def run [Broker β ρ] (clock : Clock) (schedule : List (Happening β ρ)) (relay : RecordRelay β ρ) :
    RecordRelay β ρ :=
  schedule.foldl (step clock) relay

end RecordRelay
end StreamBridge
