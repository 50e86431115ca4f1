import StreamBridge.Bench.Step
import StreamBridge.Source.Stop

/-! Sessions: one caller works with one reader over a broker in memory, call after call, while
messages come and the broker's failures change. A read that finds nothing stays where it waits,
under whatever else happens, until it is woken or given up. A session also notes what no call can
see: what the channel has accepted, what was handed out, and which tokens were acknowledged. -/

namespace StreamBridge.Proofs.ReaderSession
open Bench (Outcome)

/-- Something that happens in a session. -/
inductive Act where
  /-- A message comes; its sender waits in line while the channel is full. -/
  | deliver (sender : Nat) (sequence : UInt64) (timestamp : Timestamp) (payload : Bytes)
  | withdraw (sender : Nat)
  | read (cancelled : Bool)
  /-- The read that waits looks again, at the channel and at its cancellation. -/
  | wake (cancelled : Bool)
  | abandon
  | hasNext
  | acknowledge (token : Token)
  | stop
  | setFailing (action : BrokerAction) (fails : Bool)
  | setLatency (latency : Duration)

def Act.message? : Act → Option (Delivery UInt64)
  | .deliver _ sequence timestamp payload => some (MemoryBroker.message sequence timestamp payload)
  | _ => none

/-- The messages that come in a run, in order; the receipt of each is its sequence. -/
def deliveries (acts : List Act) : List (Delivery UInt64) := acts.filterMap Act.message?

/-- A session with its history. -/
structure Session where
  broker : MemoryBroker
  reader : Reader UInt64
  waiting : Bool
  accepted : List (Delivery UInt64)
  handedOut : List Record
  acknowledged : List Token

/-- Takes steps of a read until it ends or has to wait. A read that waits keeps its place. -/
def advance {ρ : Type} (cancelled fed : Bool) :
    Nat → ReadStage ρ → Reader ρ → Option (Except SourceError Record) × Reader ρ
  | 0, _, reader => (none, reader)
  | steps + 1, stage, reader =>
    match reader.stepRead 0 cancelled fed stage with
    | (.next stage, reader) => advance cancelled fed steps stage reader
    | (.waiting, reader) => (none, reader)
    | (.finished result, reader) => (some result, reader)

/-- The values of the senders that a read let into the channel: those that left the line. -/
def admitted (before after : Channel (Delivery UInt64)) : List (Delivery UInt64) :=
  (before.line.take (before.line.length - after.line.length)).map (·.2)

namespace Session

/-- A session with a reader that was just attached. -/
def start (reader : Reader UInt64) (broker : MemoryBroker) : Session where
  broker := broker
  reader := reader
  waiting := false
  accepted := []
  handedOut := []
  acknowledged := []

def setChannel (channel : Channel (Delivery UInt64)) (session : Session) : Session :=
  { session with reader := { session.reader with channel := channel } }

def deliver (sender : Nat) (message : Delivery UInt64) (session : Session) : Outcome × Session :=
  if Broker.feeds session.broker session.reader.port then
    match session.reader.channel.send sender message with
    | (.accepted, channel) =>
      (.done, { session.setChannel channel with accepted := session.accepted ++ [message] })
    | (.waiting, channel) => (.pending, session.setChannel channel)
    | (.refused, _) => (.brokerError .closed, session)
  else (.brokerError MemoryBroker.noSubscription, session)

def withdraw (sender : Nat) (session : Session) : Session :=
  session.setChannel (session.reader.channel.leave sender)

/-- Gives up the read that waits, if there is one. -/
def abandon (session : Session) : Session :=
  { session with reader := session.reader.leaveChannel 0, waiting := false }

/-- Notes what a read has come to. -/
def conclude (session : Session) :
    Option (Except SourceError Record) × Reader UInt64 → Outcome × Session
  | (result, reader) =>
    let seen := { session with
      reader := reader
      waiting := result.isNone
      accepted := session.accepted ++ admitted session.reader.channel reader.channel }
    match result with
    | none => (.pending, seen)
    | some (.error error) => (.sourceError error, seen)
    | some (.ok record) => (.record record, { seen with handedOut := seen.handedOut ++ [record] })

/-- Goes on with a read from a stage. -/
def follow (cancelled : Bool) (stage : ReadStage UInt64) (session : Session) : Outcome × Session :=
  let fed := Broker.feeds session.broker session.reader.port
  session.conclude (advance cancelled fed 4 stage session.reader)

def acknowledge (token : Token) (session : Session) : Outcome × Session :=
  let ((result, reader), broker) := session.reader.acknowledge token session.broker
  let seen := { session with reader := reader, broker := broker }
  match result with
  | none => (.pending, seen)
  | some (.error error) => (.sourceError error, seen)
  | some (.ok ()) => (.done, { seen with acknowledged := seen.acknowledged ++ [token] })

def stop (session : Session) : Outcome × Session :=
  let ((result, reader), broker) := session.reader.stop session.broker
  let seen := { session with reader := reader, broker := broker }
  match result with
  | none => (.pending, seen)
  | some result => (.ofSource result, seen)

/-- The session after something has happened, with what the caller learns. -/
def step (session : Session) : Act → Outcome × Session
  | .deliver sender sequence timestamp payload =>
    session.deliver sender (MemoryBroker.message sequence timestamp payload)
  | .withdraw sender => (.done, session.withdraw sender)
  | .read cancelled => session.abandon.follow cancelled .entering
  | .wake cancelled =>
    if session.waiting then session.follow cancelled .listening else (.unknown, session)
  | .abandon => (.done, session.abandon)
  | .hasNext =>
    let (ahead, reader) := session.reader.hasNext
    (.truth ahead, { session with reader := reader })
  | .acknowledge token => session.acknowledge token
  | .stop => session.abandon.stop
  | .setFailing action fails =>
    (.done, { session with broker := session.broker.setFailing action fails })
  | .setLatency latency =>
    (.done, { session with broker := { session.broker with latency := latency } })

/-- The session after a run of acts. -/
def run (session : Session) (acts : List Act) : Session :=
  acts.foldl (fun session act => (session.step act).2) session

theorem run_cons (session : Session) (act : Act) (rest : List Act) :
    session.run (act :: rest) = (session.step act).2.run rest := rfl

end Session
end StreamBridge.Proofs.ReaderSession
