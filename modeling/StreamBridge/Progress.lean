/-! Calls that take several steps, with others in between. -/

namespace StreamBridge

/-- What one step of a call comes to: it goes on to another stage, it has to wait where it is, or
it has its result. -/
inductive Progress (σ α : Type) where
  | next (stage : σ)
  | waiting
  | finished (result : α)

end StreamBridge
