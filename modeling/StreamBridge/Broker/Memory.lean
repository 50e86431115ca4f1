import StreamBridge.Broker.Basic

/-! A broker in memory. It notes what it is asked for, can be told to fail, and delivers what it is
handed to the latest subscription. -/

namespace StreamBridge

/-- A message that was published. -/
structure Published where
  subject : String
  payload : Bytes
  options : PublishOptions
deriving DecidableEq

/-- A broker in memory. `live` is the port of the latest subscription, `failing` holds the actions
that are told to fail, `latency` is how long an acknowledgement takes. -/
structure MemoryBroker where
  consumers : List Consumer
  deleted : List (String × String)
  live : Option Nat
  published : List Published
  acked : List UInt64
  unsubscribed : Nat
  closings : Nat
  failing : List BrokerAction
  latency : Duration
deriving DecidableEq

namespace MemoryBroker

/-- A broker that has seen nothing yet. -/
def fresh : MemoryBroker := ⟨[], [], none, [], [], 0, 0, [], ⟨0⟩⟩

/-- Whether the connection has been closed. -/
def isClosed (broker : MemoryBroker) : Bool := 0 < broker.closings

/-- Whether an action is told to fail. -/
def fails (action : BrokerAction) (broker : MemoryBroker) : Bool := broker.failing.contains action

/-- Tells an action to fail, or to succeed again. -/
def setFailing (action : BrokerAction) (fails : Bool) (broker : MemoryBroker) : MemoryBroker :=
  let others := broker.failing.filter (· != action)
  { broker with failing := if fails then action :: others else others }

/-- Fails on a closed connection. -/
def requireOpen : Request MemoryBroker BrokerError Unit := do
  if (← get).isClosed then throw .closed

/-- Fails where the action is told to. -/
def attempt (action : BrokerAction) (reason : String) : Request MemoryBroker BrokerError Unit := do
  if (← get).fails action then throw (.failed action reason)

/-- Notes a consumer, which takes the durable name. -/
def createConsumer (stream : String) (config : ConsumerConfig) :
    Request MemoryBroker BrokerError Consumer := do
  requireOpen
  attempt .createConsumer "mock consumer failure"
  let consumer : Consumer := ⟨stream, config.durableName, config⟩
  modify fun broker => { broker with consumers := broker.consumers ++ [consumer] }
  return consumer

/-- Makes a port the live one. -/
def subscribe (port : Nat) : Request MemoryBroker BrokerError Unit := do
  requireOpen
  modify fun broker => { broker with live := some port }

/-- Ends the live subscription, whichever it is. -/
def unsubscribe : Request MemoryBroker BrokerError Unit := do
  attempt .unsubscribe "mock unsubscribe failure"
  modify fun broker => { broker with live := none, unsubscribed := broker.unsubscribed + 1 }

/-- Notes a deletion. -/
def deleteConsumer (stream name : String) : Request MemoryBroker BrokerError Unit := do
  attempt .deleteConsumer "mock delete failure"
  modify fun broker => { broker with deleted := broker.deleted ++ [(stream, name)] }

/-- Notes an acknowledged sequence. -/
def acknowledge (sequence : UInt64) : Request MemoryBroker BrokerError Unit := do
  attempt .acknowledge "mock ack failure"
  modify fun broker => { broker with acked := broker.acked ++ [sequence] }

/-- Notes a message. -/
def publish (subject : String) (payload : Bytes) (options : PublishOptions) :
    Request MemoryBroker BrokerError Unit := do
  requireOpen
  attempt .publish "mock publish failure"
  modify fun broker =>
    { broker with published := broker.published ++ [⟨subject, payload, options⟩] }

/-- Counts a closing. -/
def close : Request MemoryBroker BrokerError Unit :=
  modify fun broker => { broker with closings := broker.closings + 1 }

/-- A message as it is delivered. -/
def message (sequence : UInt64) (timestamp : Timestamp) (payload : Bytes) : Delivery UInt64 :=
  ⟨.ok ⟨sequence, timestamp⟩, payload, sequence⟩

/-- What delivering fails with where there is no subscription. -/
def noSubscription : BrokerError := .failed .subscribe "no live subscription"

instance : Broker MemoryBroker UInt64 where
  connect _ := pure ()
  openContext := pure ()
  createConsumer := createConsumer
  subscribe port _ _ := subscribe port
  unsubscribe _ := unsubscribe
  deleteConsumer := deleteConsumer
  acknowledge := acknowledge
  publish := publish
  close := close
  latency broker := broker.latency
  feeds broker port := broker.live == some port
  forward broker _ channel := (channel, broker)
  backlog _ _ := 0

end MemoryBroker
end StreamBridge
