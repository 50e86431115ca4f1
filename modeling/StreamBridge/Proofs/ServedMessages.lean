import StreamBridge.Nats.Client
import StreamBridge.Proofs.ForwardingProgress
import StreamBridge.Proofs.KeptViews
import StreamBridge.Proofs.PositionTokens
import StreamBridge.Proofs.ReplySubjects
import StreamBridge.Proofs.ResumePosition

/-! Messages of a NATS server on their way to a reader. A reader takes the names of its consumer
from the server's answer; after that the server says with each message where it stands in the
stream. -/

namespace StreamBridge.Proofs.ServedMessages
open Nats Client BrokerRequests KeptViews ForwardedMessages ForwardingProgress ReplySubjects

/-- The subscriptions of a client are its own: the server does not change them. -/
theorem hidden_feeds {α : Type} (use : Server → α × Server) : Hidden (·.network.feeds) use :=
  fun _ => rfl

theorem openContext_ok {client after : Client}
    (opens : openContext.make client = (.ok (), after)) : after = client := by
  obtain ⟨asked, middle, same, checks⟩ := bind_ok opens
  cases same
  split at checks
  · cases checks
  · cases checks
    rfl

/-- A consumer that was made has the names that the server answered with. -/
theorem createConsumer_ok {stream : String} {config : ConsumerConfig} {client after : Client}
    {consumer : Consumer}
    (created : (Client.createConsumer stream config).make client = (.ok consumer, after)) :
    ∃ asked made, (findStream stream).make client = (.ok (), asked) ∧
      (askConsumer (Server.createConsumer stream config.durableName
        (PushConfig.ofConsumer config))).make asked = (.ok made, after) ∧
      consumer = ⟨made.stream, made.name, config⟩ ∧
      after.network.feeds = client.network.feeds := by
  have kept := keeps_createConsumer stream config (hidden_feeds _) (hidden_feeds _) client
  rw [created] at kept
  obtain ⟨⟨⟩, asked, found, created⟩ := bind_ok (mapError_ok created)
  obtain ⟨made, answered, answers, created⟩ := bind_ok created
  dsimp only at created
  split at created
  · cases created
  · cases created
    exact ⟨asked, made, mapError_ok found, mapError_ok answers, rfl, kept⟩

/-- What is sent to a port comes to the subscription behind it. -/
theorem feed_send (port : Nat) (messages : List Message) (network : Network) :
    (network.send port messages).feed? port = (network.feed? port).map fun feed =>
      { feed with
        forwarder := feed.forwarder.receive (messages.filterMap Message.arrival?) } := by
  have same (feed : Feed) : (if feed.port == port then { feed with
      forwarder := feed.forwarder.receive (messages.filterMap Message.arrival?) } else feed).port =
        feed.port := by
    split <;> rfl
  simp only [Network.feed?, Network.send, Network.changeFeeds, List.find?_map, Function.comp_def,
    same]
  cases found : network.feeds.find? (·.port == port) with
  | none => rfl
  | some feed =>
    have fits := List.find?_some found
    simp only [Option.map_some, fits, if_true]

/-- A port that was not in use is fed with what the server sends from then on. -/
theorem subscribe_ok {port : Nat} {consumer : Consumer} {client after : Client}
    (subscribed : (Client.subscribe port consumer).make client = (.ok (), after))
    (unused : client.network.feed? port = none) :
    ∃ (sent : List Message) (feed : Feed), after.network.feed? port = some feed ∧
      feed.forwarder = Forwarder.fresh.receive (sent.filterMap Message.arrival?) := by
  obtain ⟨⟨⟩, found, streamed, subscribed⟩ := bind_ok (mapError_ok subscribed)
  obtain ⟨subject, bound, binds, subscribed⟩ := bind_ok subscribed
  have kept : bound.network.feeds = client.network.feeds := by
    have first := keeps_findStream consumer.stream (hidden_feeds _) client
    have second := keeps_deliverSubject consumer (hidden_feeds _) found
    rw [mapError_ok streamed] at first
    rw [mapError_ok binds] at second
    exact second.trans first
  obtain ⟨sent, served, serves, subscribed⟩ := bind_ok subscribed
  have same : served.network.feeds = client.network.feeds := by
    cases serves
    exact kept
  cases subscribed
  have none : client.network.feeds.find? (·.port == port) = none := unused
  refine ⟨sent, ⟨port, served.link.number, Forwarder.fresh.receive _⟩, ?_, rfl⟩
  rw [feed_send, Network.feed?]
  simp [same, none]

/-- A pipe is what a client does: the reader waits as long as the forwarder has something to do, and
what the client forwards in one go are steps of the forwarder, with the reader at rest. -/
theorem client_steps {port : Nat} {client : Client} {feed : Feed}
    (found : client.network.feed? port = some feed) (pipe : Pipe Receipt)
    (same : pipe.forwarder = feed.forwarder) :
    Broker.feeds client port = (!pipe.forwarder.isDone) ∧
    ∃ count, let after := pipe.run (.replicate count .forward)
      Broker.forward client port pipe.reader.channel =
        (after.reader.channel, { client with
          network := client.network.changeFeeds (·.port == port) fun _ => after.forwarder }) := by
  obtain ⟨count, steps⟩ := runFor_steps pipe (2 * pipe.forwarder.backlog)
  refine ⟨?_, count, ?_⟩
  · simp only [Broker.feeds, Network.feeds?, found, Option.any_some, same]
  · simp only [Broker.forward, Network.forward, found, Forwarder.run, ← same, steps]

inductive Item where
  | message (message : Message)
  /-- A message could not be delivered. -/
  | failure (reason : String)

def Item.arrivals : Item → List (Arrival Receipt)
  | .message served => served.arrival?.toList
  | .failure reason => [.failure reason]

/-- Something that happens while a reader reads what a server sends. -/
inductive Event where
  | item (item : Item)
  /-- There are no more items. -/
  | finish
  /-- The forwarder takes a step. -/
  | forward
  /-- The reader takes a step. -/
  | read

def Event.act : Event → Act Receipt
  | .item brings => .arrive brings.arrivals
  | .finish => .finish
  | .forward => .forward
  | .read => .read

/-- The messages among these that are for a reader: one with a status is for the client alone. -/
def forReader (messages : List Message) : List Message := messages.filter (·.status.isNone)

def Item.message? : Item → Option Message
  | .message served => some served
  | .failure _ => none

/-- The items of a run, until there are no more. -/
def itemsOf : List Event → List Item
  | [] => []
  | .item item :: rest => item :: itemsOf rest
  | .finish :: _ => []
  | .forward :: rest | .read :: rest => itemsOf rest

theorem message_arrivals (messages : List Message) :
    (messages.filterMap Message.arrival?).filterMap message? =
      (forReader messages).map Message.delivery := by
  induction messages with
  | nil => rfl
  | cons message rest ih =>
    cases status : message.status <;>
      simpa [forReader, Message.arrival?, status, message?, List.filterMap_cons] using ih

theorem brought_events (events : List Event) :
    brought (events.map Event.act) =
      (forReader ((itemsOf events).filterMap Item.message?)).map Message.delivery := by
  induction events with
  | nil => rfl
  | cons event rest ih =>
    cases event with
    | item item =>
      cases item with
      | message served =>
        cases status : served.status <;>
          simp [brought, Event.act, Item.arrivals, Message.arrival?, message?, itemsOf,
            Item.message?, forReader, status, ih]
      | failure reason =>
        simpa [brought, Event.act, Item.arrivals, message?, itemsOf, Item.message?,
          List.filterMap_cons] using ih
    | finish => rfl
    | forward | read => exact ih

theorem finish_events (events : List Event) :
    Act.finish ∈ events.map Event.act ↔ .finish ∈ events := by
  rw [List.mem_map]
  refine ⟨fun ⟨event, member, same⟩ => ?_, fun member => ⟨.finish, member, rfl⟩⟩
  cases event with
  | finish => exact member
  | item | forward | read => cases same

/-- What the call that takes a message returns: a record that holds what the message holds and
points behind it, or the reason why nobody can tell where that is. -/
inductive Returns (consumer : Consumer) (subject : String) (message : Message) :
    Except SourceError Record → Prop where
  | unreadable (fault : ReplyFault) (unread : Reply.metadata message.reply = .error fault) :
      Returns consumer subject message
        (.error (.broker (.failed .readMetadata fault.message)))
  | record (record : Record) (position : Position) (sequence : Nat)
      (payload : record.payload = ⟨none, message.payload⟩)
      (token : Position.decode record.position = .ok position)
      (durable : position.durable = consumer.name) (stream : position.stream = consumer.stream)
      (filter : position.subject = subject)
      (told : Tells message.reply sequence (nanoseconds position.timestamp))
      (next : sequence < 2 ^ 64 - 1 → position.next.toNat = sequence + 1) :
      Returns consumer subject message (.ok record)

theorem record_returns (reader : Reader Receipt) (message : Message) :
    Returns reader.consumer reader.subject message (reader.record message.delivery) := by
  rw [Reader.record, Message.delivery]
  cases read : Reply.metadata message.reply with
  | error fault => exact .unreadable fault read
  | ok metadata =>
    exact .record _ (reader.position metadata) metadata.sequence.toNat rfl
      (PositionTokens.decode_encode _) rfl rfl rfl (metadata_tells read) ResumePosition.toNat_next

/-- Whatever a server sends to a reader that has attached to it, and however fast the forwarder and
the reader go: the calls of the reader return what each message comes to, one after another, whether
or not items between them fail; after the last message, once there are no more items, each call
tells so. The messages on the way are never more than the channel has room for and one more. The
consumer in each position has the names that the server answered with. -/
theorem served_in_order {port : Nat} {params : SourceParams} {client opened : Client}
    {reader : Reader Receipt}
    (attached : (Reader.attach port params).make client = (.ok reader, opened))
    (unused : client.network.feed? port = none) (events : List Event) :
    ∃ (config : ConsumerConfig) (made : ConsumerDescription) (asked answered : Client)
      (sent : List Message) (feed : Feed),
      params.consumerConfig = .ok config ∧
      (findStream params.stream).make client = (.ok (), asked) ∧
      (askConsumer (Server.createConsumer params.stream config.durableName
        (PushConfig.ofConsumer config))).make asked = (.ok made, answered) ∧
      opened.network.feed? port = some feed ∧
      feed.forwarder = Forwarder.fresh.receive (sent.filterMap Message.arrival?) ∧
      Account params.capacity
        ((forReader (sent ++ (itemsOf events).filterMap Item.message?)).map fun message =>
          reader.record message.delivery)
        (.finish ∈ events)
        ((Pipe.start feed.forwarder reader).run (events.map Event.act)) ∧
      ∀ message, Returns ⟨made.stream, made.name, config⟩ params.subject message
        (reader.record message.delivery) := by
  obtain ⟨config, start, configured, attached⟩ := bind_ok attached
  obtain ⟨consumer, middle, opens, attached⟩ := bind_ok attached
  obtain ⟨⟨⟩, final, subscribed, attached⟩ := bind_ok attached
  obtain ⟨⟨⟩, context, ready, created⟩ := bind_ok (mapError_ok opens)
  cases given : params.consumerConfig with
  | error error =>
    rw [given] at configured
    cases configured
  | ok settled =>
    rw [given] at configured
    cases configured
    cases openContext_ok ready
    obtain ⟨asked, made, found, answers, rfl, kept⟩ := createConsumer_ok created
    cases attached
    have free : middle.network.feed? port = none := by
      rw [Network.feed?, kept]
      exact unused
    obtain ⟨sent, feed, feeds, forwarder⟩ := subscribe_ok (mapError_ok subscribed) free
    refine ⟨config, made, asked, middle, sent, feed, rfl, found, answers, feeds, forwarder, ?_,
      record_returns (.fresh port ⟨made.stream, made.name, config⟩ params)⟩
    have account := forwards_in_order port ⟨made.stream, made.name, config⟩ params
      (sent.filterMap Message.arrival?) (events.map Event.act)
    rw [message_arrivals, brought_events, ← List.map_append, List.map_map, finish_events] at account
    rw [forwarder, forReader, List.filter_append]
    exact account

/-- A channel with room for one message. -/
def orders : SourceParams := ⟨1, "reader", "ORDERS", "orders.*", .empty, .all, .explicit⟩

/-- A server that holds one message, and gives the consumer another name. -/
def renames : Client where
  network := .ofServer { Server.fresh [] with
    streams := [("ORDERS",
      [⟨"7", [0x61], some (Reply.subject "7" "1700000000000000001"), none⟩])]
    nameAlias := some "reader-7" }
  link := ⟨0, true, false⟩

/-- A delivery that fails and a message without a reply subject, behind the one that the server
holds; then the end, which two calls are told of. -/
def faults : List Event :=
  [.read, .item (.failure "slow consumer"), .item (.message ⟨"8", [0x62], none, none⟩), .forward,
    .forward, .forward, .forward, .finish] ++ List.replicate 4 .read ++ [.forward] ++
    List.replicate 9 .read

theorem served_in_order_faults :
    ∃ (reader : Reader Receipt) (opened : Client) (feed : Feed) (sent : List Message),
      (Reader.attach 0 orders).make renames = (.ok reader, opened) ∧
      renames.network.feed? 0 = none ∧ reader.consumer.name = "reader-7" ∧
      let pipe := (Pipe.start feed.forwarder reader).run (faults.map Event.act)
      Account 1 ((forReader (sent ++ (itemsOf faults).filterMap Item.message?)).map fun message =>
        reader.record message.delivery) (.finish ∈ faults) pipe ∧
      pipe.outcomes.map (fun outcome => outcome.toOption.map (·.payload.after)) =
        [some [0x61], none, none, none] := by
  have attached : (Reader.attach 0 orders).make renames =
      (.ok (Reader.fresh 0 ⟨"ORDERS", "reader-7", _⟩ orders), _) := rfl
  obtain ⟨_, _, _, _, sent, feed, _, _, _, feeds, forwarder, account, _⟩ :=
    served_in_order attached rfl faults
  cases feeds
  exact ⟨_, _, _, sent, attached, rfl, rfl, account, rfl⟩

end StreamBridge.Proofs.ServedMessages
