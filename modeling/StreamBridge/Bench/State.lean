import StreamBridge.Bench.Step
import StreamBridge.Source.Stop
import StreamBridge.Destination.Writer

/-! The state of a bench. A reader without a name stays while a call works on it. -/

namespace StreamBridge.Bench

/-- A reader with the tokens that it has handed out. -/
structure Seat where
  reader : Reader UInt64
  tokens : List Token

/-- A bare subscription with its channel and what has been received from it. -/
structure Listener where
  port : Nat
  channel : Channel (Delivery UInt64)
  subscribed : Bool
  received : List (Delivery UInt64)

/-- A call under way. -/
inductive Call where
  | sending (delivery : Delivery UInt64)
  /-- In line for room in the channel behind a port. -/
  | delivering (port : Nat)
  | reading (port : Nat) (signal : Option String) (stage : ReadStage UInt64)
  | acknowledging (port : Nat) (token : Token) (stage : AckStage UInt64)
  | stopping (port : Nat) (stage : StopStage)
  /-- Waiting for the broker's answer to a bare acknowledgement. -/
  | confirming (due : Duration) (sequence : UInt64)
  /-- With an outcome that did not have to wait. -/
  | settled (outcome : Outcome)

/-- How a task stands. -/
inductive TaskState where
  | running (call : Call)
  | ended (outcome : Outcome)

/-- A call with its number and the name it can be asked for by. -/
structure Task where
  number : Nat
  name : Option String
  state : TaskState

end Bench

/-- A bench: a broker in memory, what works on it, and the tasks in the order they were started. -/
structure Bench where
  broker : MemoryBroker
  seats : List (Nat × Bench.Seat)
  readers : List (String × Nat)
  listeners : List (String × Bench.Listener)
  writers : List (String × Writer)
  signals : List (String × Bool)
  tasks : List Bench.Task
  clock : Duration
  ports : Nat
  started : Nat

namespace Bench

/-- A bench with nothing on it. -/
def fresh : Bench := ⟨.fresh, [], [], [], [], [], [], ⟨0⟩, 0, 0⟩

/-- Sets the value of a key, which keeps its place if it is there. -/
def assign {κ α : Type} [BEq κ] (key : κ) (value : α) : List (κ × α) → List (κ × α)
  | [] => [(key, value)]
  | (other, old) :: rest =>
    if other == key then (key, value) :: rest else (other, old) :: assign key value rest

/-- The seat of a named reader, with its port. -/
def seat? (name : String) (bench : Bench) : Option (Nat × Seat) := do
  let port ← bench.readers.lookup name
  let seat ← bench.seats.lookup port
  return (port, seat)

/-- Replaces the reader behind a port. -/
def setReader (port : Nat) (reader : Reader UInt64) (bench : Bench) : Bench :=
  { bench with
    seats := bench.seats.map fun (other, seat) =>
      (other, if other == port then { seat with reader := reader } else seat) }

/-- Replaces a channel wherever it is: behind a reader or a bare subscription. -/
def setChannel (port : Nat) (channel : Channel (Delivery UInt64)) (bench : Bench) : Bench :=
  { bench with
    seats := bench.seats.map fun (other, seat) =>
      (other, if other == port then { seat with reader := { seat.reader with channel := channel } }
        else seat)
    listeners := bench.listeners.map fun (name, listener) =>
      (name, if listener.port == port then { listener with channel := channel } else listener) }

/-- The channel behind a port; none where its receiver is gone. -/
def channel? (port : Nat) (bench : Bench) : Option (Channel (Delivery UInt64)) :=
  match bench.seats.lookup port with
  | some seat => some seat.reader.channel
  | none => (bench.listeners.find? (·.2.port == port)).map (·.2.channel)

/-- The port of the reader that a call works on. -/
def Call.port? : Call → Option Nat
  | .reading port _ _ | .acknowledging port _ _ | .stopping port _ => some port
  | .sending _ | .delivering _ | .confirming _ _ | .settled _ => none

/-- The port of the reader that a task still works on. -/
def Task.port? (task : Task) : Option Nat :=
  match task.state with
  | .running call => call.port?
  | .ended _ => none

/-- Drops the readers that have no name and that no task works on. -/
def prune (bench : Bench) : Bench :=
  let kept (port : Nat) : Bool :=
    bench.readers.any (·.2 == port) || bench.tasks.any (·.port? == some port)
  { bench with seats := bench.seats.filter fun (port, _) => kept port }

/-- The value of a signal; one that is not named is never set. -/
def cancelled (signal : Option String) (bench : Bench) : Bool :=
  (signal.bind fun name => bench.signals.lookup name).getD false

end Bench
end StreamBridge
