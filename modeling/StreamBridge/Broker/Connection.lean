/-! How to reach a broker. -/

namespace StreamBridge

/-- How to reach the broker. `reconnectWait` counts seconds. -/
structure ConnectionSettings where
  urls : List String
  name : Option String
  maxReconnects : Nat
  reconnectWait : Nat
deriving DecidableEq, Repr, Inhabited

/-- The connection where nothing is set. -/
def ConnectionSettings.default : ConnectionSettings where
  urls := ["nats://127.0.0.1:4222"]
  name := none
  maxReconnects := 5
  reconnectWait := 5

end StreamBridge
