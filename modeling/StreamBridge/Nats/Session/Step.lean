import StreamBridge.Nats.Client
import StreamBridge.Source.Stop
import StreamBridge.Destination.Writer

/-! The steps of a session at a NATS server: connections, and readers, writers and bare
subscriptions on them. Everything has a name. -/

namespace StreamBridge.Nats.Session

/-- What is changed about the server; what is absent stays. Scripts start over. -/
structure ServerChange where
  failures : Option (List (ApiCall × List Outcome))
  publishing : Option (List Outcome)
  pull : Option Bool
  /-- The names under which consumers are kept: that of the stream and their own. -/
  aliases : Option (Option String × Option String)
  handshake : Option Handshake
  /-- Messages for the latest subscription. -/
  push : List Message

/-- The server after a change. -/
def ServerChange.applyTo (change : ServerChange) (server : Server) : Server :=
  let (streamAlias, nameAlias) := change.aliases.getD (server.streamAlias, server.nameAlias)
  { server with
    failures := change.failures.getD server.failures
    publishing := change.publishing.getD server.publishing
    pull := change.pull.getD server.pull
    streamAlias := streamAlias
    nameAlias := nameAlias
    handshake := change.handshake.getD server.handshake }

/-- A step on a connection, past readers and writers. -/
inductive Order where
  | createConsumer (stream : String) (config : ConsumerConfig)
  | deleteConsumer (stream name : String)
  | publish (subject : String) (payload : Bytes) (options : PublishOptions)
  | subscribe (listener subject : String) (consumer : Consumer) (capacity : Nat)

/-- A step of a session. -/
inductive Step where
  | change (change : ServerChange)
  | connect (name : String) (settings : ConnectionSettings)
  | close (connection : String)
  | context (connection : String)
  | openReader (connection name : String) (params : SourceParams)
  | read (reader : String)
  | acknowledge (reader : String) (index : Nat)
  | stop (reader : String)
  | openWriter (connection name : String) (params : DestinationParams)
  | write (writer : String) (record : Record)
  | closeWriter (writer : String)
  | order (connection : String) (order : Order)
  | receive (listener : String)
  | confirm (listener : String) (index : Nat)
  | unsubscribe (listener : String)
  /-- The receiving end of a subscription goes. -/
  | dropChannel (listener : String)
  | dropListener (listener : String)
  | wait

/-- What a step comes to. -/
inductive Answer where
  | done
  | unknown
  | pending
  | disconnected
  | consumer (consumer : Consumer)
  /-- A record, and how many are to be acknowledged. -/
  | record (record : Record) (pending : Nat)
  | options (options : PublishOptions)
  | subject (subject : String)
  | message (delivery : Delivery Receipt)
  | brokerError (error : BrokerError)
  | sourceError (error : SourceError)
  | writeError (error : WriteError)

namespace Answer

/-- The answer to a request at the broker. -/
def ofBroker : Except BrokerError Unit → Answer
  | .ok () => .done
  | .error error => .brokerError error

/-- The answer to a call of a reader; one that is given up is pending. -/
def ofSource : Option (Except SourceError Unit) → Answer
  | none => .pending
  | some (.ok ()) => .done
  | some (.error error) => .sourceError error

/-- The answer to a call of a writer. -/
def ofWriter : Except WriteError Unit → Answer
  | .ok () => .done
  | .error error => .writeError error

end Answer
end StreamBridge.Nats.Session
