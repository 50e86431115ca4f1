import StreamBridge.Progress
import StreamBridge.Source.Reader

/-! Acknowledging a record, step by step. The gate is held from the look at the oldest record until
that record is off the list, so the head stays what it was while the broker is asked. -/

namespace StreamBridge

/-- How far an acknowledgement has got. -/
inductive AckStage (ρ : Type) where
  | entering
  /-- In line for the gate. -/
  | queueing
  /-- Holding the gate. -/
  | comparing
  /-- Waiting until `due` for the broker's answer. -/
  | asking (due : Duration) (delivery : Delivery ρ)
  /-- With the broker's agreement. -/
  | popping

/-- When a stage that has to wait can go on by itself: the broker's answer comes when it is due. -/
def AckStage.due? {ρ : Type} : AckStage ρ → Option Duration
  | .asking due _ => some due
  | .entering | .queueing | .comparing | .popping => none

namespace Reader

variable {β ρ : Type}

/-- A call leaves the gate's line. -/
def leaveGate (call : Nat) (reader : Reader ρ) : Reader ρ :=
  { reader with gateLine := reader.gateLine.filter (· != call) }

/-- What a step of an acknowledgement gives. -/
abbrev AckProgress (ρ : Type) := Progress (AckStage ρ) (Except SourceError Unit)

/-- Enters: a stopped reader refuses, one that does not track agrees at once; else the call joins
the gate's line. -/
def enterAck (call : Nat) (reader : Reader ρ) : AckProgress ρ × Reader ρ :=
  if reader.stopped then (.finished (.error .stopped), reader)
  else if reader.tracks then
    (.next .queueing, { reader with gateLine := reader.gateLine ++ [call] })
  else (.finished (.ok ()), reader)

/-- Waits for the head of the gate's line. -/
def queueAck (call : Nat) (reader : Reader ρ) : AckProgress ρ × Reader ρ :=
  if reader.gateLine.head? = some call then (.next .comparing, reader) else (.waiting, reader)

/-- Compares the requested token with that of the oldest record. -/
def compareAck (call : Nat) (requested : Token) (due : Duration) (reader : Reader ρ) :
    AckProgress ρ × Reader ρ :=
  match reader.pending with
  | [] => (.finished (.error (.nothingPending requested)), reader.leaveGate call)
  | head :: _ =>
    if head.token = requested then (.next (.asking due head.delivery), reader)
    else (.finished (.error (.outOfOrder requested head.token)), reader.leaveGate call)

/-- Takes the broker's answer. -/
def answerAck (call : Nat) (answer : Except BrokerError Unit) (reader : Reader ρ) :
    AckProgress ρ × Reader ρ :=
  match answer with
  | .error error => (.finished (.error (.broker error)), reader.leaveGate call)
  | .ok () => (.next .popping, reader)

/-- Takes the oldest record off the list. -/
def popAck (call : Nat) (reader : Reader ρ) : AckProgress ρ × Reader ρ :=
  (.finished (.ok ()), { reader.leaveGate call with pending := reader.pending.tail })

/-- One step of an acknowledgement at the time `now`. -/
def stepAck [Broker β ρ] (call : Nat) (requested : Token) (now : Duration) (stage : AckStage ρ)
    (reader : Reader ρ) (broker : β) : (AckProgress ρ × Reader ρ) × β :=
  match stage with
  | .entering => (reader.enterAck call, broker)
  | .queueing => (reader.queueAck call, broker)
  | .comparing =>
    (reader.compareAck call requested (now + Broker.latency broker), broker)
  | .asking due delivery =>
    if now < due then ((.waiting, reader), broker)
    else
      let (answer, broker) := (Broker.acknowledge delivery.receipt).make broker
      (reader.answerAck call answer, broker)
  | .popping => (reader.popAck call, broker)

/-- Takes steps of an acknowledgement until it ends, with the clock moved on where the broker's
answer takes time; one that waits for another call is given up. -/
def acknowledgeFor [Broker β ρ] (requested : Token) :
    Nat → Duration → AckStage ρ → Reader ρ → β → (Option (Except SourceError Unit) × Reader ρ) × β
  | 0, _, _, reader, broker => ((none, reader.leaveGate 0), broker)
  | steps + 1, now, stage, reader, broker =>
    match reader.stepAck 0 requested now stage broker with
    | ((.next stage, reader), broker) =>
      acknowledgeFor requested steps now stage reader broker
    | ((.waiting, reader), broker) =>
      match stage.due? with
      | some due => acknowledgeFor requested steps due stage reader broker
      | none => ((none, reader.leaveGate 0), broker)
    | ((.finished result, reader), broker) => ((some result, reader), broker)

/-- Acknowledges a record, with no other call under way. An acknowledgement has five stages, and
waits at most once for the broker. -/
def acknowledge [Broker β ρ] (requested : Token) (reader : Reader ρ) (broker : β) :
    (Option (Except SourceError Unit) × Reader ρ) × β :=
  acknowledgeFor requested 6 ⟨0⟩ .entering reader broker

end Reader
end StreamBridge
