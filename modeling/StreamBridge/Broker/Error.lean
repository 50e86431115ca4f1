/-! What can go wrong at a broker. -/

namespace StreamBridge

/-- What a broker was asked to do when it failed. -/
inductive BrokerAction where
  | connect
  | openContext
  | createConsumer
  | subscribe
  | unsubscribe
  | deleteConsumer
  | readMetadata
  | acknowledge
  | publish
deriving DecidableEq, Repr

/-- How an action is named in reports. -/
def BrokerAction.label : BrokerAction → String
  | .connect => "connect"
  | .openContext => "get stream context"
  | .createConsumer => "add consumer"
  | .subscribe => "subscribe"
  | .unsubscribe => "unsubscribe"
  | .deleteConsumer => "delete consumer"
  | .readMetadata => "get message metadata"
  | .acknowledge => "ack message"
  | .publish => "publish"

/-- A failure at a broker: an action that failed for a reason, or a connection that is closed. -/
inductive BrokerError where
  | failed (action : BrokerAction) (reason : String)
  | closed
deriving DecidableEq, Repr

/-- The report of a failure. -/
def BrokerError.message : BrokerError → String
  | .failed action reason => action.label ++ ": " ++ reason
  | .closed => "connection closed"

end StreamBridge
