import StreamBridge.Nats.Request

/-! A client of a NATS server. Its subscriptions forward what the server sends into the delivery
channels behind their ports. -/

namespace StreamBridge.Nats

/-- A receipt is the reply subject of a message, if it has one. -/
abbrev Receipt := Option String

/-- A subscription at work, on the connection of a number. -/
structure Feed where
  port : Nat
  link : Nat
  forwarder : Forwarder Receipt

/-- A server with the subscriptions that it feeds, and the time that its clients have waited. -/
structure Network where
  server : Server
  feeds : List Feed
  clock : Duration

/-- A connection. It is open between connecting and closing. -/
structure Link where
  number : Nat
  isOpen : Bool
  closed : Bool

/-- A network as one of its clients works on it. -/
structure Client where
  network : Network
  link : Link

namespace Message

/-- A message as it is delivered. -/
def delivery (message : Message) : Delivery Receipt where
  metadata :=
    (Reply.metadata message.reply).mapError fun fault => .failed .readMetadata fault.message
  payload := message.payload
  receipt := message.reply

/-- What a message brings: one with a status is for the client alone. -/
def arrival? (message : Message) : Option (Arrival Receipt) :=
  if message.status.isSome then none else some (.message message.delivery)

end Message

namespace Network

/-- A network of a server that nobody has connected to. -/
def ofServer (server : Server) : Network := ⟨server, [], ⟨0⟩⟩

/-- The subscription behind a port. -/
def feed? (port : Nat) (network : Network) : Option Feed :=
  network.feeds.find? (·.port == port)

/-- Changes the subscriptions that fit. -/
def changeFeeds (fits : Feed → Bool) (change : Forwarder Receipt → Forwarder Receipt)
    (network : Network) : Network :=
  { network with
    feeds := network.feeds.map fun feed =>
      if fits feed then { feed with forwarder := change feed.forwarder } else feed }

/-- Ends a subscription with all that has not reached its channel. -/
def dropFeed (port : Nat) (network : Network) : Network :=
  { network with feeds := network.feeds.filter (·.port != port) }

/-- Sends messages to a subscription. -/
def send (port : Nat) (messages : List Message) (network : Network) : Network :=
  network.changeFeeds (·.port == port) (·.receive (messages.filterMap Message.arrival?))

/-- Sends messages to the latest subscription. -/
def push (messages : List Message) (network : Network) : Network :=
  network.server.latest.elim network fun port => network.send port messages

/-- Forwards to a port as far as its channel has room. -/
def forward (port : Nat) (channel : Channel (Delivery Receipt)) (network : Network) :
    Channel (Delivery Receipt) × Network :=
  match network.feed? port with
  | none => (channel, network)
  | some feed =>
    let (forwarder, channel) := feed.forwarder.run channel
    (channel, network.changeFeeds (·.port == port) fun _ => forwarder)

/-- Whether a subscription may still deliver to a port. -/
def feeds? (port : Nat) (network : Network) : Bool :=
  (network.feed? port).any fun feed => !feed.forwarder.isDone

/-- How many messages have come for a port and are not in its channel yet. -/
def backlog (port : Nat) (network : Network) : Nat :=
  (network.feed? port).elim 0 fun feed => feed.forwarder.backlog

end Network

/-- How a server receives a client. -/
inductive Greeting where
  | accepted
  /-- The client gives up. -/
  | rejected (reason : String)
  /-- The client goes on to another address. -/
  | passedOver (reason : String)

/-- Receives a client that may have a name. -/
def Server.greet (name : Option String) (server : Server) : Greeting × Server :=
  let known := server.note (.connect name)
  match server.handshake with
  | .welcome => (.accepted, known)
  | .unauthorized => (.rejected "authorization violation: nats: authorization violation", known)
  | .crowded => (.rejected "IO error: nats: Maximum Connections Exceeded", known)
  | .hangUp => (.rejected "IO error: broken pipe", known)
  | .silent => (.passedOver "IO error: expected INFO, got nothing", server)
  | .garbled => (.passedOver "IO error: invalid server operation: 'HELLO\r\n'", server)

namespace Client

/-- A client that has not connected yet. -/
def ofServer (server : Server) : Client := ⟨.ofServer server, ⟨0, false, false⟩⟩

/-- The report of an address where nobody listens. -/
def connectionRefused : String := "IO error: Connection refused (os error 111)"

/-- The report of an address that comes after the last allowed attempt. -/
def attemptsExhausted : String := "reached maximum number of reconnects"

/-- Tries addresses in turn. `attempts` have been made before, the last of which failed for
`reason`; a `limit` of zero allows any number. -/
def tryAddresses (name : Option String) (limit attempts : Nat) (reason : String) :
    List Address → Server → Except String Unit × Server
  | [], server => (.error reason, server)
  | address :: rest, server =>
    if limit != 0 && limit ≤ attempts then (.error attemptsExhausted, server)
    else if server.addresses.contains address then
      match server.greet name with
      | (.accepted, server) => (.ok (), server)
      | (.rejected reason, server) => (.error reason, server)
      | (.passedOver reason, server) =>
        tryAddresses name limit (attempts + 1) reason rest server
    else tryAddresses name limit (attempts + 1) connectionRefused rest server

/-- Uses the server in a request that cannot fail. -/
def useServer {ε α : Type} (use : Server → α × Server) : Request Client ε α := fun client =>
  let (value, server) := use client.network.server
  (.ok value, { client with network := { client.network with server := server } })

/-- Connects to the first address that lets the client in. All addresses are read before any is
tried. -/
def connect (settings : ConnectionSettings) : Request Client BrokerError Unit :=
  Request.mapError (.failed .connect) do
    let addresses ← liftExcept <| (settings.urls.mapM Address.read).mapError fun fault =>
      "failed to parse server or server list: " ++ fault.message
    let result ← useServer (tryAddresses settings.name settings.maxReconnects 0 "" addresses)
    liftExcept result
    modify fun client => { client with link := { client.link with isOpen := true } }

/-- Refuses a connection that was closed. -/
def openContext : Request Client BrokerError Unit := do
  if (← get).link.closed then throw .closed

/-- Asks the server, on an open connection. -/
def ask {α : Type} (expected : Json.Fit α) (request : Server → Response α × Server) :
    Request Client RequestFault α := do
  if (← get).link.isOpen then
    liftExcept (Response.read expected (← useServer request))
  else throw .closed

/-- Whether a character cannot stand in a stream's name. -/
def isNameBreak (letter : Char) : Bool :=
  [' ', '\t', '\n', '\r', '\x0c', '.', '*', '>'].contains letter

/-- Looks a stream up; a name that no stream can have is not asked for. -/
def findStream (stream : String) : Request Client String Unit := do
  if stream.isEmpty then throw "empty name cannot be empty"
  if stream.toList.any isNameBreak then throw "invalid stream name"
  Request.mapError RequestFault.streamMessage (ask Description.stream (Server.streamInfo stream))

/-- Reports failures with words before them. -/
def prefixed {α : Type} (words : String) (request : Request Client String α) :
    Request Client String α :=
  Request.mapError (words ++ ·) request

/-- Asks the server about a consumer. A heartbeat that was sent as a negative number cannot be read
back. -/
def askConsumer (request : Server → Response ConsumerDescription × Server) :
    Request Client RequestFault ConsumerDescription := do
  let description ← ask Description.consumer request
  if description.heartbeat < 0 then throw (.failed Response.misfit)
  return description

/-- The report of a consumer that has no deliver subject. -/
def notPushed : String := "push consumer must have delivery subject"

/-- Makes a consumer. Its names are those that the server answers with, its terms those that were
asked for. -/
def createConsumer (stream : String) (config : ConsumerConfig) :
    Request Client BrokerError Consumer :=
  Request.mapError (.failed .createConsumer) do
    prefixed ("get stream " ++ stream ++ ": ") (findStream stream)
    let made ← Request.mapError RequestFault.changeMessage <| askConsumer <|
      Server.createConsumer stream config.durableName (PushConfig.ofConsumer config)
    if made.deliverSubject.isNone then throw ("consumer error: " ++ notPushed)
    return ⟨made.stream, made.name, config⟩

/-- The subject that the server delivers to for a consumer. -/
def deliverSubject (consumer : Consumer) : Request Client String String := do
  let description ← Request.mapError RequestFault.consumerMessage
    (askConsumer (Server.consumerInfo consumer.stream consumer.name))
  match description.deliverSubject with
  | some subject => return subject
  | none => throw notPushed

/-- Subscribes a port to what the server delivers for a consumer. -/
def subscribe (port : Nat) (consumer : Consumer) : Request Client BrokerError Unit :=
  Request.mapError (.failed .subscribe) do
    prefixed "get stream: " (findStream consumer.stream)
    let subject ← prefixed ("bind durable " ++ consumer.name ++ ": ") (deliverSubject consumer)
    let messages ← useServer (Server.subscribe port subject)
    modify fun client =>
      let feed : Feed := ⟨port, client.link.number, .fresh⟩
      let network := { client.network with feeds := client.network.feeds ++ [feed] }
      { client with network := network.send port messages }

/-- Ends the subscription of a port. -/
def unsubscribe (port : Nat) : Request Client BrokerError Unit :=
  modify fun client => { client with network := client.network.dropFeed port }

/-- Deletes a consumer. -/
def deleteConsumer (stream name : String) : Request Client BrokerError Unit :=
  Request.mapError (.failed .deleteConsumer) do
    prefixed ("get stream " ++ stream ++ ": ") (findStream stream)
    Request.mapError RequestFault.changeMessage
      (ask Response.deletion (Server.deleteConsumer stream name))

/-- Answers on the reply subject of a message. -/
def acknowledge (receipt : Receipt) : Request Client BrokerError Unit :=
  Request.mapError (.failed .acknowledge) do
    match receipt with
    | none => throw "No reply subject, not a JetStream message"
    | some subject =>
      if (← get).link.isOpen then useServer fun server => ((), server.takeReply subject)
      else throw ("failed to send message: " ++ RequestFault.disconnected)

/-- Makes one attempt to publish. -/
def publishOnce (subject : String) (payload : Bytes) : Request Client PublishFailure Unit :=
  Request.mapError RequestFault.publishFailure do
    if (← get).link.isOpen then
      let outcome ← useServer (Server.publish subject payload)
      liftExcept outcome.published
    else throw (.failed RequestFault.disconnected)

/-- Lets time pass. -/
def pause (wait : Duration) (client : Client) : Client :=
  { client with network := { client.network with clock := client.network.clock + wait } }

/-- Publishes a message, with retries as the options say. -/
def publish (subject : String) (payload : Bytes) (options : PublishOptions) :
    Request Client BrokerError Unit :=
  Retry.publish (pause (options.retryWait?.getD Retry.defaultWait)) (publishOnce subject payload)
    (options.retryAttempts?.getD Retry.defaultAttempts)

/-- Closes the connection. Nothing more arrives for its subscriptions; what has arrived is still
forwarded. -/
def close : Request Client BrokerError Unit :=
  modify fun client =>
    { network := client.network.changeFeeds (·.link == client.link.number) (·.finish)
      link := { client.link with isOpen := false, closed := true } }

instance : Broker Client Receipt where
  connect := connect
  openContext := openContext
  createConsumer := createConsumer
  subscribe port _ consumer := subscribe port consumer
  unsubscribe := unsubscribe
  deleteConsumer := deleteConsumer
  acknowledge := acknowledge
  publish := publish
  close := close
  latency _ := ⟨0⟩
  feeds client port := client.network.feeds? port
  forward client port channel :=
    let (channel, network) := client.network.forward port channel
    (channel, { client with network := network })
  backlog client port := client.network.backlog port

end Client
end StreamBridge.Nats
