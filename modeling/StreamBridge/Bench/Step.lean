import StreamBridge.Broker.Memory
import StreamBridge.Source.Error
import StreamBridge.Destination.Error
import StreamBridge.Source.Params
import StreamBridge.Destination.Params
import StreamBridge.Record

/-! The steps of an exercise on a bench: readers and writers on one broker in memory, under a clock
that only a step moves. Everything has a name. -/

namespace StreamBridge.Bench

/-- The token that an acknowledgement names: itself, or that of a record which a reader handed
out. -/
inductive TokenChoice where
  | given (token : Token)
  | handedOut (reader : String) (index : Nat)

/-- A call that may have to wait. -/
inductive Order where
  | deliver (sequence : UInt64) (timestamp : Timestamp) (payload : Bytes)
  | read (reader : String) (signal : Option String)
  | acknowledge (reader : String) (token : TokenChoice)
  | stop (reader : String)
  | write (writer : String) (record : Record)
  | close (writer : String)
  | createConsumer (stream : String) (config : ConsumerConfig)
  | confirm (listener : String) (index : Nat)
  | unsubscribe (listener : String)
  | deleteConsumer (stream name : String)
  | publish (subject : String) (payload : Bytes) (options : PublishOptions)
  | disconnect

/-- A step of an exercise. -/
inductive Step where
  | setFailing (action : BrokerAction) (value : Bool)
  | setLatency (latency : Duration)
  | advance (span : Duration)
  | setSignal (name : String) (value : Bool)
  | releaseSignal (name : String)
  | openReader (name : String) (params : SourceParams)
  | hasNext (reader : String)
  | dropReader (reader : String)
  | openWriter (name : String) (params : DestinationParams)
  | showBroker
  | subscribe (listener subject : String) (capacity : Nat)
  | receive (listener : String)
  /-- Starts a call; one without a task's name is given up if it has to wait. -/
  | call (order : Order) (task : Option String)
  | join (task : String)
  | abort (task : String)

/-- What a step or a call comes to. -/
inductive Outcome where
  | done
  | unknown
  | pending
  | aborted
  | empty
  | disconnected
  | started (task : String) (ended : Bool)
  | truth (value : Bool)
  | consumer (consumer : Consumer)
  | record (record : Record)
  | options (options : PublishOptions)
  | subject (subject : String)
  | message (delivery : Delivery UInt64)
  | broker (broker : MemoryBroker)
  | brokerError (error : BrokerError)
  | sourceError (error : SourceError)
  | writeError (error : WriteError)

namespace Outcome

/-- The outcome of a request to the broker. -/
def ofBroker : Except BrokerError Unit → Outcome
  | .ok () => .done
  | .error error => .brokerError error

/-- The outcome of a call on a reader. -/
def ofSource : Except SourceError Unit → Outcome
  | .ok () => .done
  | .error error => .sourceError error

/-- The outcome of a read. -/
def ofRead : Except SourceError Record → Outcome
  | .ok found => .record found
  | .error error => .sourceError error

/-- The outcome of a call on a writer. -/
def ofWriter : Except WriteError Unit → Outcome
  | .ok () => .done
  | .error error => .writeError error

end Outcome
end StreamBridge.Bench
