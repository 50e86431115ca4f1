import StreamBridge.Nats.Session.Step

/-! Taking the steps of a session. A reader or a writer takes a connection over: its name is then of
use only to bare requests. Those find a connection while it is open, and in the step after it is
closed. -/

namespace StreamBridge.Nats

namespace Session

/-- A named connection. `taken` tells that a reader or a writer has it, `gone` that bare requests
find it no more. -/
structure Contact where
  link : Nat
  taken : Bool
  gone : Bool

/-- A reader on a connection, with the tokens that it has handed out. -/
structure Seat where
  link : Nat
  reader : Reader Receipt
  tokens : List Token

/-- A writer on a connection. -/
structure Desk where
  link : Nat
  writer : Writer

/-- A bare subscription. `received` is what has been taken from its channel, which is absent once
its receiving end is gone. -/
structure Listener where
  link : Nat
  port : Nat
  channel : Option (Channel (Delivery Receipt))
  received : List (Delivery Receipt)

end Session

/-- A session: a network with its connections, and what works on them. -/
structure Session where
  network : Network
  links : List Link
  contacts : List (String × Session.Contact)
  seats : List (String × Session.Seat)
  desks : List (String × Session.Desk)
  listeners : List (String × Session.Listener)
  ports : Nat

namespace Session

/-- A session at a server, before the first step. -/
def start (server : Server) : Session := ⟨.ofServer server, [], [], [], [], [], 0⟩

/-- Gives a name to something; what had the name before is forgotten. -/
def assign {α : Type} (name : String) (value : α) (entries : List (String × α)) :
    List (String × α) :=
  (name, value) :: entries.filter (·.1 != name)

/-- The connection of a number. -/
def link? (number : Nat) (session : Session) : Option Link :=
  session.links.find? (·.number == number)

/-- The network as a connection works on it. -/
def client (link : Link) (session : Session) : Client := ⟨session.network, link⟩

/-- Takes over what a client has changed. -/
def resume (client : Client) (session : Session) : Session :=
  { session with
    network := client.network
    links := session.links.map fun link =>
      if link.number == client.link.number then client.link else link }

/-- Makes a request on a connection. -/
def request {ε α : Type} (link : Link) (request : Request Client ε α) (session : Session) :
    Except ε α × Session :=
  let (result, client) := request.make (session.client link)
  (result, session.resume client)

/-- A connection that is still under its name. -/
def free? (name : String) (session : Session) : Option Link := do
  let contact ← session.contacts.lookup name
  if contact.taken then none else session.link? contact.link

/-- A connection for bare requests, taken or not. -/
def usable? (name : String) (session : Session) : Option Link := do
  let contact ← session.contacts.lookup name
  if contact.gone then none else session.link? contact.link

/-- Marks a connection as taken. -/
def takeOver (name : String) (link : Link) (session : Session) : Session :=
  { session with contacts := assign name ⟨link.number, true, false⟩ session.contacts }

/-- Ends the subscription of whatever has a name. -/
def dropPort (port : Option Nat) (session : Session) : Session :=
  port.elim session fun port => { session with network := session.network.dropFeed port }

/-- Changes the server, and sends what it is told to push. -/
def change (change : ServerChange) (session : Session) : Session :=
  let server := change.applyTo session.network.server
  { session with network := { session.network with server := server }.push change.push }

/-- Makes a connection. -/
def connect (name : String) (settings : ConnectionSettings) (session : Session) :
    Answer × Session :=
  let link : Link := ⟨session.links.length, false, false⟩
  let session := { session with links := session.links ++ [link] }
  match session.request link (Client.connect settings) with
  | (.error error, session) => (.brokerError error, session)
  | (.ok (), session) =>
    let contact : Contact := ⟨link.number, false, false⟩
    (.done, { session with contacts := assign name contact session.contacts })

/-- Attaches a reader to a connection. -/
def openReader (link : Link) (name : String) (params : SourceParams) (session : Session) :
    Answer × Session :=
  let port := session.ports
  let session := { session with ports := port + 1 }
  match session.request link (Reader.attach port params) with
  | (.error error, session) => (.sourceError error, session)
  | (.ok reader, session) =>
    let session := session.dropPort ((session.seats.lookup name).map (·.reader.port))
    (.consumer reader.consumer,
      { session with seats := assign name ⟨link.number, reader, []⟩ session.seats })

/-- Attaches a writer to a connection. -/
def openWriter (link : Link) (name : String) (params : DestinationParams) (session : Session) :
    Answer × Session :=
  match session.request link (Writer.attach params) with
  | (.error error, session) => (.writeError error, session)
  | (.ok writer, session) =>
    (.options writer.options,
      { session with desks := assign name ⟨link.number, writer⟩ session.desks })

/-- Reads a record, if one has come. -/
def read (name : String) (seat : Seat) (session : Session) : Answer × Session :=
  let keep (reader : Reader Receipt) (tokens : List Token) : Session :=
    { session with seats := assign name { seat with reader, tokens } session.seats }
  match seat.reader.read false (session.network.feeds? seat.reader.port) with
  | (none, reader) => (.pending, keep reader seat.tokens)
  | (some (.error error), reader) => (.sourceError error, keep reader seat.tokens)
  | (some (.ok record), reader) =>
    (.record record reader.pending.length, keep reader (seat.tokens ++ [record.position]))

/-- Lets a reader work at the broker. -/
def useReader (name : String) (seat : Seat) (link : Link)
    (use : Reader Receipt → Client → (Option (Except SourceError Unit) × Reader Receipt) × Client)
    (session : Session) : Answer × Session :=
  let ((result, reader), client) := use seat.reader (session.client link)
  let session := session.resume client
  (.ofSource result, { session with seats := assign name { seat with reader } session.seats })

/-- Takes a bare step on a connection. -/
def order (link : Link) (order : Order) (session : Session) : Answer × Session :=
  match order with
  | .createConsumer stream config =>
    match session.request link (Client.createConsumer stream config) with
    | (.error error, session) => (.brokerError error, session)
    | (.ok consumer, session) => (.consumer consumer, session)
  | .deleteConsumer stream name =>
    let (result, session) := session.request link (Client.deleteConsumer stream name)
    (.ofBroker result, session)
  | .publish subject payload options =>
    let (result, session) := session.request link (Client.publish subject payload options)
    (.ofBroker result, session)
  | .subscribe name subject consumer capacity =>
    let port := session.ports
    let session := { session with ports := port + 1 }
    match session.request link (Client.subscribe port consumer) with
    | (.error error, session) => (.brokerError error, session)
    | (.ok (), session) =>
      let session := session.dropPort ((session.listeners.lookup name).map (·.port))
      let listener : Listener := ⟨link.number, port, some (.fresh capacity), []⟩
      (.subject subject, { session with listeners := assign name listener session.listeners })

/-- Receives a message from a bare subscription, if one has come. -/
def receive (name : String) (listener : Listener) (session : Session) : Answer × Session :=
  match listener.channel with
  | none => (.unknown, session)
  | some channel =>
    match channel.take with
    | none =>
      (if session.network.feeds? listener.port then .pending else .disconnected, session)
    | some (delivery, channel) =>
      let listener :=
        { listener with channel := some channel, received := listener.received ++ [delivery] }
      (.message delivery,
        { session with listeners := assign name listener session.listeners })

/-- Takes a step about something that may not be there. -/
def withNamed {α : Type} (found : Option α) (session : Session)
    (act : α → Answer × Session) : Answer × Session :=
  found.elim (.unknown, session) act

/-- Takes a step, before what has come is forwarded. -/
def act (step : Step) (session : Session) : Answer × Session :=
  match step with
  | .change change => (.done, session.change change)
  | .connect name settings => session.connect name settings
  | .close name => withNamed (session.free? name) session fun link =>
    let (result, session) := session.request link Client.close
    (.ofBroker result, session)
  | .context name => withNamed (session.free? name) session fun link =>
    let (result, session) := session.request link Client.openContext
    (.ofBroker result, session)
  | .openReader connection name params => withNamed (session.free? connection) session fun link =>
    (session.takeOver connection link).openReader link name params
  | .openWriter connection name params => withNamed (session.free? connection) session fun link =>
    (session.takeOver connection link).openWriter link name params
  | .read name => withNamed (session.seats.lookup name) session fun seat => session.read name seat
  | .acknowledge name index =>
    let found := do
      let seat ← session.seats.lookup name
      return (seat, ← session.link? seat.link, ← seat.tokens[index]?)
    withNamed found session fun (seat, link, token) =>
      session.useReader name seat link (Reader.acknowledge token)
  | .stop name =>
    let found := do
      let seat ← session.seats.lookup name
      return (seat, ← session.link? seat.link)
    withNamed found session fun (seat, link) => session.useReader name seat link Reader.stop
  | .write name record =>
    let found := do
      let desk ← session.desks.lookup name
      return (desk, ← session.link? desk.link)
    withNamed found session fun (desk, link) =>
      let (result, session) := session.request link (desk.writer.write record)
      (.ofWriter result, session)
  | .closeWriter name =>
    let found := do
      let desk ← session.desks.lookup name
      return (desk, ← session.link? desk.link)
    withNamed found session fun (desk, link) =>
      let ((result, writer), client) := desk.writer.close (session.client link)
      let session := session.resume client
      (.ofWriter result, { session with desks := assign name { desk with writer } session.desks })
  | .order connection order => withNamed (session.usable? connection) session fun link =>
    session.order link order
  | .receive name => withNamed (session.listeners.lookup name) session fun listener =>
    session.receive name listener
  | .confirm name index =>
    let found := do
      let listener ← session.listeners.lookup name
      return (← session.link? listener.link, ← listener.received[index]?)
    withNamed found session fun (link, delivery) =>
      let (result, session) := session.request link (Client.acknowledge delivery.receipt)
      (.ofBroker result, session)
  | .unsubscribe name => withNamed (session.listeners.lookup name) session fun listener =>
    (.done, session.dropPort (some listener.port))
  | .dropChannel name => withNamed (session.listeners.lookup name) session fun listener =>
    (.done, { session with
      listeners := assign name { listener with channel := none } session.listeners })
  | .dropListener name => withNamed (session.listeners.lookup name) session fun listener =>
    let session := session.dropPort (some listener.port)
    (.done, { session with listeners := session.listeners.filter (·.1 != name) })
  | .wait => (.done, session)

/-- Forwards what has come to the readers. -/
def forwardToReaders : List (String × Seat) → Network → List (String × Seat) × Network
  | [], network => ([], network)
  | (name, seat) :: rest, network =>
    let (channel, network) := network.forward seat.reader.port seat.reader.channel
    let (rest, network) := forwardToReaders rest network
    ((name, { seat with reader := { seat.reader with channel := channel } }) :: rest, network)

/-- What a channel without a receiving end is like. -/
def deaf : Channel (Delivery Receipt) := Channel.close (.fresh 0)

/-- Forwards what has come to the bare subscriptions. -/
def forwardToListeners : List (String × Listener) → Network → List (String × Listener) × Network
  | [], network => ([], network)
  | (name, listener) :: rest, network =>
    let (channel, network) := network.forward listener.port (listener.channel.getD deaf)
    let (rest, network) := forwardToListeners rest network
    ((name, { listener with channel := listener.channel.map fun _ => channel }) :: rest, network)

/-- Forwards what has come, as far as there is room. -/
def settle (session : Session) : Session :=
  let (seats, network) := forwardToReaders session.seats session.network
  let (listeners, network) := forwardToListeners session.listeners network
  { session with network := network, seats := seats, listeners := listeners }

/-- Takes the log off the server. -/
def takeLog (session : Session) : List LogEntry × Session :=
  let server := session.network.server
  (server.log,
    { session with network := { session.network with server := { server with log := [] } } })

/-- Hides connections that were closed at the beginning of a step from later bare requests. -/
def hideClosed (before session : Session) : Session :=
  { session with
    contacts := session.contacts.map fun (name, contact) =>
      (name, { contact with
        gone := contact.gone || (before.link? contact.link).any (·.closed) }) }

/-- Takes a step; gives its answer, and what the server saw meanwhile. -/
def take (step : Step) (before : Session) : (Answer × List LogEntry) × Session :=
  let (answer, session) := before.act step
  let (log, session) := (hideClosed before session).settle.takeLog
  ((answer, log), session)

/-- Takes steps in order. -/
def run : List Step → Session → List (Answer × List LogEntry)
  | [], _ => []
  | step :: rest, session =>
    let (answer, session) := session.take step
    answer :: run rest session

end Session
end StreamBridge.Nats
