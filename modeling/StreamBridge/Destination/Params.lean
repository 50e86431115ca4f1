import StreamBridge.Publishing

/-! What a destination is opened with. -/

namespace StreamBridge

/-- What a destination is opened with. A zero wait or count leaves the choice to the broker. -/
structure DestinationParams where
  subject : String
  batchSize : Nat
  retryWait : Duration
  retryAttempts : Nat
deriving DecidableEq, Repr, Inhabited

/-- The options of every publish call of a destination. -/
def DestinationParams.options (params : DestinationParams) : PublishOptions :=
  .ofSettings params.retryWait params.retryAttempts

end StreamBridge
