import StreamBridge.Channel
import StreamBridge.Broker.Basic

/-! Forwarding what a subscription brings into a delivery channel. A forwarder holds at most one
message, and waits with it until the channel has room; meanwhile further arrivals pile up behind
it. -/

namespace StreamBridge

/-- What a subscription brings: a message, or the report that one could not be delivered. -/
inductive Arrival (ρ : Type) where
  | message (delivery : Delivery ρ)
  | failure (reason : String)

/-- A forwarder. `held` is the message in its hand, `arrived` what it has not looked at yet; `ended`
tells that nothing more will arrive. -/
structure Forwarder (ρ : Type) where
  arrived : List (Arrival ρ)
  held : Option (Delivery ρ)
  ended : Bool

namespace Forwarder

variable {ρ : Type}

/-- A forwarder to which nothing has come yet. -/
def fresh : Forwarder ρ := ⟨[], none, false⟩

/-- More arrives, unless the subscription has ended. -/
def receive (arrivals : List (Arrival ρ)) (forwarder : Forwarder ρ) : Forwarder ρ :=
  if forwarder.ended then forwarder
  else { forwarder with arrived := forwarder.arrived ++ arrivals }

/-- Nothing more will arrive. -/
def finish (forwarder : Forwarder ρ) : Forwarder ρ := { forwarder with ended := true }

/-- Whether a forwarder has nothing left to do. -/
def isDone (forwarder : Forwarder ρ) : Bool :=
  forwarder.ended && forwarder.arrived.isEmpty && forwarder.held.isNone

/-- How many arrivals are not in the channel yet. -/
def backlog (forwarder : Forwarder ρ) : Nat :=
  forwarder.arrived.length + (if forwarder.held.isSome then 1 else 0)

/-- A forwarder whose channel is closed: it drops all it has and looks at nothing more. -/
def abandoned : Forwarder ρ := ⟨[], none, true⟩

/-- One step: the held message goes into the channel, else the next arrival is taken in hand. A
failure is passed over. None where there is nothing to do. -/
def step (forwarder : Forwarder ρ) (channel : Channel (Delivery ρ)) :
    Option (Forwarder ρ × Channel (Delivery ρ)) :=
  match forwarder.held with
  | some delivery =>
    if channel.closed then some (abandoned, channel)
    else if channel.hasRoom then
      some ({ forwarder with held := none }, (channel.send 0 delivery).2)
    else none
  | none =>
    match forwarder.arrived with
    | [] => none
    | .failure _ :: rest => some ({ forwarder with arrived := rest }, channel)
    | .message delivery :: rest =>
      some ({ forwarder with arrived := rest, held := some delivery }, channel)

/-- Takes at most `steps` steps. -/
def runFor : Nat → Forwarder ρ → Channel (Delivery ρ) → Forwarder ρ × Channel (Delivery ρ)
  | 0, forwarder, channel => (forwarder, channel)
  | steps + 1, forwarder, channel =>
    match forwarder.step channel with
    | none => (forwarder, channel)
    | some (forwarder, channel) => runFor steps forwarder channel

/-- Forwards as far as there is room. An arrival takes two steps, a held message one. -/
def run (forwarder : Forwarder ρ) (channel : Channel (Delivery ρ)) :
    Forwarder ρ × Channel (Delivery ρ) :=
  runFor (2 * forwarder.backlog) forwarder channel

end Forwarder
end StreamBridge
