import StreamBridge.Progress
import StreamBridge.Source.Read
import StreamBridge.Source.Acknowledge

/-! Stopping a reader, step by step: end the subscription, close the channel, forget what is
pending, delete the consumer, close the connection. The first failure ends the call and leaves the
later steps undone, so that stopping again takes them up. -/

namespace StreamBridge

/-- How far a stop has got. -/
inductive StopStage where
  | entering
  | unsubscribing
  /-- In line for the channel. -/
  | closing
  /-- In line for the gate, where records are tracked. -/
  | draining
  | deleting
  | disconnecting

namespace Reader

variable {β ρ : Type}

/-- What a step of a stop gives. -/
abbrev StopProgress := Progress StopStage (Except SourceError Unit)

/-- Ends the subscription, if that has not been done, and joins the channel's line. -/
def unsubscribe [Broker β ρ] (call : Nat) (reader : Reader ρ) (broker : β) :
    (StopProgress × Reader ρ) × β :=
  let queued (reader : Reader ρ) : Reader ρ :=
    { reader with channelLine := reader.channelLine ++ [call] }
  if reader.subscribed then
    match (Broker.unsubscribe reader.port).make broker with
    | (.error error, broker) => ((.finished (.error (.broker error)), reader), broker)
    | (.ok (), broker) =>
      ((.next .closing, queued { reader with subscribed := false }), broker)
  else ((.next .closing, queued reader), broker)

/-- Closes the channel at the head of its line, and joins the gate's line. -/
def closeChannel (call : Nat) (reader : Reader ρ) : StopProgress × Reader ρ :=
  if reader.channelLine.head? = some call then
    let closed := { reader.leaveChannel call with channel := reader.channel.close }
    (.next .draining,
      if reader.tracks then { closed with gateLine := closed.gateLine ++ [call] } else closed)
  else (.waiting, reader)

/-- Forgets what is pending at the head of the gate's line. -/
def drain (call : Nat) (reader : Reader ρ) : StopProgress × Reader ρ :=
  if !reader.tracks then (.next .deleting, reader)
  else if reader.gateLine.head? = some call then
    (.next .deleting, { reader.leaveGate call with pending := [] })
  else (.waiting, reader)

/-- Deletes the consumer. -/
def deleteConsumer [Broker β ρ] (reader : Reader ρ) (broker : β) : StopProgress × β :=
  match (Broker.deleteConsumer reader.consumer.stream reader.consumer.name).make broker with
  | (.error error, broker) => (.finished (.error (.broker error)), broker)
  | (.ok (), broker) => (.next .disconnecting, broker)

/-- Closes the connection. -/
def disconnect [Broker β ρ] (broker : β) : StopProgress × β :=
  match (Broker.close (β := β)).make broker with
  | (.error error, broker) => (.finished (.error (.broker error)), broker)
  | (.ok (), broker) => (.finished (.ok ()), broker)

/-- One step of a stop. -/
def stepStop [Broker β ρ] (call : Nat) (stage : StopStage) (reader : Reader ρ) (broker : β) :
    (StopProgress × Reader ρ) × β :=
  match stage with
  | .entering => ((.next .unsubscribing, { reader with stopped := true }), broker)
  | .unsubscribing => reader.unsubscribe call broker
  | .closing => (reader.closeChannel call, broker)
  | .draining => (reader.drain call, broker)
  | .deleting =>
    let (progress, broker) := reader.deleteConsumer broker
    ((progress, reader), broker)
  | .disconnecting =>
    let (progress, broker) := disconnect broker
    ((progress, reader), broker)

/-- Takes steps of a stop until it ends or has to wait; one that waits is given up. -/
def stopFor [Broker β ρ] :
    Nat → StopStage → Reader ρ → β → (Option (Except SourceError Unit) × Reader ρ) × β
  | 0, _, reader, broker => ((none, (reader.leaveChannel 0).leaveGate 0), broker)
  | steps + 1, stage, reader, broker =>
    match reader.stepStop 0 stage broker with
    | ((.next stage, reader), broker) => stopFor steps stage reader broker
    | ((.waiting, reader), broker) =>
      ((none, (reader.leaveChannel 0).leaveGate 0), broker)
    | ((.finished result, reader), broker) => ((some result, reader), broker)

/-- Stops a reader, with no other call under way. A stop has six stages. -/
def stop [Broker β ρ] (reader : Reader ρ) (broker : β) :
    (Option (Except SourceError Unit) × Reader ρ) × β :=
  stopFor 6 .entering reader broker

end Reader
end StreamBridge
