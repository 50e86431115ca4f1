import StreamBridge.Broker.Error

/-! What can go wrong when a destination writes. -/

namespace StreamBridge

/-- A failure of a destination. -/
inductive WriteError where
  /-- More than one record for each publish call is asked for. -/
  | batched (size : Nat)
  | publish (error : BrokerError)
  | broker (error : BrokerError)
deriving DecidableEq, Repr

/-- The report of a failure. -/
def WriteError.message : WriteError → String
  | .batched size => "batched publish is not implemented (batch size " ++ toString size ++ ")"
  | .publish error => "publish sync: " ++ error.message
  | .broker error => error.message

/-- The report of the failure behind one that adds words of its own. -/
def WriteError.cause? : WriteError → Option String
  | .publish error => some error.message
  | .batched _ | .broker _ => none

end StreamBridge
