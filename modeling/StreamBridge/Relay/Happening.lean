import StreamBridge.Broker.Basic

/-! What happens around a relay while it works: the schedule that a run is exposed to. -/

namespace StreamBridge

/-- A happening. -/
inductive Happening (β ρ : Type) where
  /-- A message is sent to the delivery channel. -/
  | deliver (delivery : Delivery ρ)
  /-- Bytes arrive on the input. -/
  | input (bytes : Bytes)
  | inputEnds
  /-- The broker changes by itself. -/
  | change (apply : β → β)
  | cancel
  /-- The relay takes one turn. -/
  | turn
  /-- The relay takes turns until it has to wait. -/
  | turns

end StreamBridge
