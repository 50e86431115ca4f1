import StreamBridge.Forwarding
import StreamBridge.Script
import StreamBridge.Nats.Address
import StreamBridge.Nats.Description
import StreamBridge.Nats.PushConsumer
import StreamBridge.Nats.Reply

/-! A small NATS server with JetStream, in memory. It keeps streams and consumers, can be scripted
to fail, and notes what it sees. -/

namespace StreamBridge.Nats

/-- A message of a stream. `status` marks a message to the client itself. -/
structure Message where
  sequence : String
  payload : Bytes
  reply : Option String
  status : Option Nat

/-- An error that the server answers with. -/
structure ApiError where
  code : Nat
  errorCode : Nat
  description : Option String
deriving DecidableEq, Repr

/-- The report of an error. -/
def ApiError.message (error : ApiError) : String :=
  toString error.code ++ " (code " ++ error.description.getD "unknown" ++ ", error code "
    ++ toString error.errorCode ++ ")"

/-- A stream that is not there. -/
def streamNotFound : ApiError := ⟨404, 10059, some "stream not found"⟩

/-- A consumer that is not there. -/
def consumerNotFound : ApiError := ⟨404, 10014, some "consumer not found"⟩

/-- A scripted answer. -/
inductive Outcome where
  /-- Whatever the server would say. -/
  | proper
  | noResponders
  /-- A response of this text. -/
  | raw (text : Bytes)

/-- What a client hears of a request. -/
inductive Response (α : Type) where
  | proper (value : α)
  | noResponders
  | refusal (error : ApiError)
  | raw (text : Bytes)

/-- The requests of the JetStream API. -/
inductive ApiCall where
  | streamInfo
  | consumerCreate
  | consumerInfo
  | consumerDelete
deriving DecidableEq, Repr

/-- The name of a request. -/
def ApiCall.name : ApiCall → String
  | .streamInfo => "STREAM.INFO"
  | .consumerCreate => "CONSUMER.CREATE"
  | .consumerInfo => "CONSUMER.INFO"
  | .consumerDelete => "CONSUMER.DELETE"

/-- The subject of a request about something. -/
def ApiCall.subject (call : ApiCall) (names : List String) : String :=
  String.intercalate "." ("$JS.API" :: call.name :: names)

/-- How the server treats a client that connects. -/
inductive Handshake where
  | welcome
  /-- The client has no permission. -/
  | unauthorized
  /-- There are too many clients. -/
  | crowded
  /-- The line is cut once the client has introduced itself. -/
  | hangUp
  /-- The line is cut at once. -/
  | silent
  /-- The server speaks another protocol. -/
  | garbled
deriving DecidableEq, Repr

/-- What the server sees. -/
inductive LogEntry where
  | connect (name : Option String)
  | request (subject : String) (body : Option Bytes)
  | subscribe (subject : String)
  | acknowledge (subject : String) (body : Bytes)
  | publish (subject : String) (body : Bytes)

/-- A consumer that the server keeps. -/
structure StoredConsumer where
  stream : String
  name : String
  config : PushConfig

/-- How a consumer is described; `pull` leaves its deliver subject out. -/
def StoredConsumer.description (consumer : StoredConsumer) (pull : Bool) : ConsumerDescription where
  stream := consumer.stream
  name := consumer.name
  deliverSubject := if pull then none else some consumer.config.deliverSubject
  heartbeat := PushConfig.sentSpan consumer.config.idleHeartbeat

/-- The server. `addresses` is where it listens. `streamAlias` and `nameAlias` rename consumers as
they are made; `pull` makes it answer that no consumer has a deliver subject; `latest` is the number
of the latest subscription. -/
structure Server where
  addresses : List Address
  streams : List (String × List Message)
  consumers : List StoredConsumer
  failures : List (ApiCall × List Outcome)
  publishing : List Outcome
  pull : Bool
  streamAlias : Option String
  nameAlias : Option String
  handshake : Handshake
  latest : Option Nat
  log : List LogEntry

namespace Server

/-- A server without streams. -/
def fresh (addresses : List Address) : Server where
  addresses := addresses
  streams := []
  consumers := []
  failures := []
  publishing := []
  pull := false
  streamAlias := none
  nameAlias := none
  handshake := .welcome
  latest := none
  log := []

/-- Notes what is seen. -/
def note (entry : LogEntry) (server : Server) : Server :=
  { server with log := server.log ++ [entry] }

/-- The script of a request. -/
def scriptOf (call : ApiCall) (server : Server) : List Outcome :=
  (server.failures.lookup call).getD []

/-- Replaces the script of a request. -/
def setScript (call : ApiCall) (script : List Outcome) (server : Server) : Server :=
  { server with failures := (call, script) :: server.failures.filter (·.1 != call) }

/-- Answers a request: as its script says, or properly, with `proper`. -/
def answer {α : Type} (call : ApiCall) (subject : String) (body : Option Bytes)
    (proper : Server → Except ApiError α × Server) (server : Server) : Response α × Server :=
  let server := server.note (.request subject body)
  let (outcome, script) := Script.next (server.scriptOf call)
  let server := server.setScript call script
  match outcome with
  | none | some .proper =>
    match proper server with
    | (.ok value, server) => (.proper value, server)
    | (.error error, server) => (.refusal error, server)
  | some .noResponders => (.noResponders, server)
  | some (.raw text) => (.raw text, server)

/-- Answers about a stream, if it is there. -/
def onStream {α : Type} (stream : String) (proper : Server → Except ApiError α × Server)
    (server : Server) : Except ApiError α × Server :=
  if (server.streams.lookup stream).isSome then proper server else (.error streamNotFound, server)

/-- A request without members. -/
def emptyRequest : Bytes := Json.writeObject []

/-- The consumer of a name on a stream. -/
def consumer? (stream name : String) (server : Server) : Option StoredConsumer :=
  server.consumers.find? fun consumer => consumer.stream == stream && consumer.name == name

/-- Answers whether a stream is there. -/
def streamInfo (stream : String) : Server → Response Unit × Server :=
  answer .streamInfo (ApiCall.streamInfo.subject [stream]) none
    (onStream stream fun server => (.ok (), server))

/-- Keeps a consumer in place of one of the same name, under its alias if there is one. -/
def store (stream name : String) (config : PushConfig) (server : Server) :
    StoredConsumer × Server :=
  let stored : StoredConsumer :=
    ⟨server.streamAlias.getD stream, server.nameAlias.getD name, config⟩
  let others := server.consumers.filter fun other =>
    !(other.stream == stored.stream && other.name == stored.name)
  (stored, { server with consumers := others ++ [stored] })

/-- Makes a consumer, and answers with it. -/
def createConsumer (stream name : String) (config : PushConfig) :
    Server → Response ConsumerDescription × Server :=
  answer .consumerCreate (ApiCall.consumerCreate.subject [stream, name])
    (some (config.request stream)) <| onStream stream fun server =>
      let (stored, server) := server.store stream name config
      (.ok (stored.description false), server)

/-- Answers with a consumer. -/
def consumerInfo (stream name : String) : Server → Response ConsumerDescription × Server :=
  answer .consumerInfo (ApiCall.consumerInfo.subject [stream, name]) (some emptyRequest) <|
    onStream stream fun server =>
      match server.consumer? stream name with
      | none => (.error consumerNotFound, server)
      | some consumer => (.ok (consumer.description server.pull), server)

/-- Deletes a consumer. -/
def deleteConsumer (stream name : String) : Server → Response Unit × Server :=
  answer .consumerDelete (ApiCall.consumerDelete.subject [stream, name]) (some emptyRequest) <|
    onStream stream fun server =>
      match server.consumer? stream name with
      | none => (.error consumerNotFound, server)
      | some _ =>
        (.ok (), { server with
          consumers := server.consumers.filter fun other =>
            !(other.stream == stream && other.name == name) })

/-- Whether a message lies where a consumer starts. A sequence that cannot be read counts as zero.
-/
def isWanted (policy : DeliverPolicy) (message : Message) : Bool :=
  match policy with
  | .all => true
  | .new => false
  | .byStartSequence start =>
    let sequence := Decimal.readUnsigned Decimal.maxWord message.sequence.toList
    start.toNat ≤ sequence.toOption.getD 0

/-- The messages that a consumer is sent when somebody subscribes to it. -/
def messagesFor (consumer : StoredConsumer) (server : Server) : List Message :=
  ((server.streams.lookup consumer.stream).getD []).filter (isWanted consumer.config.deliverPolicy)

/-- Takes a subscription of a number, and gives the messages that are sent to it. -/
def subscribe (number : Nat) (subject : String) (server : Server) : List Message × Server :=
  let server := { server.note (.subscribe subject) with latest := some number }
  let consumer? := server.consumers.find? (·.config.deliverSubject == subject)
  (consumer?.elim [] server.messagesFor, server)

/-- What the subject of an acknowledgement starts with. -/
def isAcknowledgement (subject : String) : Bool := Reply.start.isPrefixOf subject.toList

/-- Takes an answer to a delivered message. -/
def takeReply (subject : String) (server : Server) : Server :=
  server.note (if isAcknowledgement subject then .acknowledge subject [] else .publish subject [])

/-- Takes a message to be stored, and answers as its script says. -/
def publish (subject : String) (payload : Bytes) (server : Server) : Outcome × Server :=
  let (outcome, script) := Script.next server.publishing
  (outcome.getD .proper, { server.note (.publish subject payload) with publishing := script })

end Server
end StreamBridge.Nats
