import StreamBridge.Proofs.KeptViews
import StreamBridge.Proofs.ReaderCalls

/-! What is left of attaching a reader that fails. A reader is attached by requests made one after
another; where one fails, those before it have been made. Of these only the one that makes the
consumer changes which consumers there are, and nothing takes it back. -/

namespace StreamBridge.Proofs.Attachments
open Nats BrokerRequests ReaderCalls KeptViews

variable {β ρ : Type}

/-- Where attaching a reader can fail, and what has been asked of the broker by then. -/
inductive Fails [Broker β ρ] (port : Nat) (params : SourceParams) (origin : β) :
    SourceError → β → Prop where
  | unreadable (fault : Json.ReadError) (known : Position.decode params.position = .error fault) :
      Fails port params origin (.badPosition fault) origin
  | unopened (error : BrokerError) (after : β)
      (opens : (Broker.openContext : Request β BrokerError Unit).make origin =
        (.error error, after)) :
      Fails port params origin (.broker error) after
  | uncreated (config : ConsumerConfig) (opened : β) (error : BrokerError) (after : β)
      (configured : params.consumerConfig = .ok config)
      (opens : (Broker.openContext : Request β BrokerError Unit).make origin = (.ok (), opened))
      (creates : (Broker.createConsumer params.stream config).make opened =
        (.error error, after)) :
      Fails port params origin (.broker error) after
  | unsubscribed (config : ConsumerConfig) (opened made : β) (consumer : Consumer)
      (error : BrokerError) (after : β) (configured : params.consumerConfig = .ok config)
      (opens : (Broker.openContext : Request β BrokerError Unit).make origin = (.ok (), opened))
      (creates : (Broker.createConsumer params.stream config).make opened = (.ok consumer, made))
      (subscribes : (Broker.subscribe port params.subject consumer).make made =
        (.error error, after)) :
      Fails port params origin (.broker error) after

theorem attach_unreadable [Broker β ρ] (port : Nat) {params : SourceParams} {fault : Json.ReadError}
    (known : Position.decode params.position = .error fault) (broker : β) :
    (Reader.attach port params).make broker = (.error (.badPosition fault), broker) := by
  have configured : params.consumerConfig = .error (.badPosition fault) :=
    (consumerConfig_refused_iff params _).mpr ⟨fault, known, rfl⟩
  rw [Reader.attach, make_bind, make_liftExcept, configured]

theorem attach_failed [Broker β ρ] {port : Nat} {params : SourceParams} {origin after : β}
    {error : SourceError}
    (failed : (Reader.attach port params).make origin = (.error error, after)) :
    Fails port params origin error after := by
  rcases bind_failed failed with refused | ⟨config, start, configured, failed⟩
  · rw [make_liftExcept, Prod.mk.injEq] at refused
    obtain ⟨refused, rfl⟩ := refused
    obtain ⟨fault, known, rfl⟩ := (consumerConfig_refused_iff params error).mp refused
    exact .unreadable fault known
  rw [make_liftExcept, Prod.mk.injEq] at configured
  obtain ⟨configured, rfl⟩ := configured
  rcases bind_failed failed with opening | ⟨consumer, made, opening, failed⟩
  · obtain ⟨cause, rfl, asking⟩ := mapError_failed opening
    rcases bind_failed asking with opens | ⟨⟨⟩, opened, opens, creates⟩
    · exact .unopened cause after opens
    · exact .uncreated config opened cause after configured opens creates
  · obtain ⟨⟨⟩, opened, opens, creates⟩ := bind_ok (mapError_ok opening)
    rcases bind_failed failed with subscribing | ⟨⟨⟩, final, -, last⟩
    · obtain ⟨cause, rfl, subscribes⟩ := mapError_failed subscribing
      exact .unsubscribed config opened made consumer cause after configured opens creates
        subscribes
    · cases last

section memory

theorem createConsumer_refused {stream : String} {config : ConsumerConfig}
    {broker after : MemoryBroker} {error : BrokerError}
    (creates : (Broker.createConsumer stream config).make broker = (.error error, after)) :
    after = broker := by
  rw [createConsumer_memory] at creates
  split at creates
  · cases creates
    rfl
  · split at creates
    · cases creates
      rfl
    · cases creates

theorem createConsumer_open {stream : String} {config : ConsumerConfig}
    {broker after : MemoryBroker} {consumer : Consumer}
    (creates : (Broker.createConsumer stream config).make broker = (.ok consumer, after)) :
    after.isClosed = false := by
  rw [createConsumer_memory] at creates
  split at creates
  · cases creates
  next isOpen =>
    split at creates
    · cases creates
    · cases creates
      exact Bool.eq_false_iff.mpr isOpen

/-- A broker in memory that makes a consumer is open, and so it takes the subscription too. -/
theorem memory_failed {port : Nat} {params : SourceParams} {origin after : MemoryBroker}
    {error : SourceError}
    (failed : (Reader.attach port params).make origin = (.error error, after)) :
    after = origin := by
  cases attach_failed failed with
  | unreadable => rfl
  | unopened error _ opens => cases opens
  | uncreated config opened error _ configured opens creates =>
    cases opens
    exact createConsumer_refused creates
  | unsubscribed config opened made consumer error _ configured opens creates subscribes =>
    rw [subscribe_memory, createConsumer_open creates] at subscribes
    cases subscribes

end memory

section server
variable {α : Type}

/-- The consumers that a server keeps, and the names that it gives to those it makes. -/
def registry (server : Server) : List StoredConsumer × Option String × Option String :=
  (server.consumers, server.streamAlias, server.nameAlias)

/-- The registry behind a client. -/
def known (client : Client) : List StoredConsumer × Option String × Option String :=
  registry client.network.server

/-- How a server answers a request: properly, in which case it has done what is asked for, or in
another way. -/
inductive Answers (proper : Server → Except ApiError α × Server) (server : Server) :
    Response α × Server → Prop where
  | answered (asked : Server) (same : registry asked = registry server) (value : α)
      (after : Server) (does : proper asked = (.ok value, after)) :
      Answers proper server (.proper value, after)
  | refused (asked : Server) (same : registry asked = registry server) (error : ApiError)
      (after : Server) (does : proper asked = (.error error, after)) :
      Answers proper server (.refusal error, after)
  | scripted (response : Response α) (improper : ∀ value, response ≠ .proper value)
      (after : Server) (same : registry after = registry server) :
      Answers proper server (response, after)

theorem answer_cases (call : ApiCall) (subject : String) (body : Option Bytes)
    (proper : Server → Except ApiError α × Server) (server : Server) :
    Answers proper server (Server.answer call subject body proper server) := by
  unfold Server.answer
  dsimp only
  generalize noted : (server.note _).setScript call _ = asked
  have same : registry asked = registry server := by
    rw [← noted]
    rfl
  split
  · split
    next does => exact .answered asked same _ _ does
    next does => exact .refused asked same _ _ does
  · split
    next does => exact .answered asked same _ _ does
    next does => exact .refused asked same _ _ does
  · exact .scripted _ nofun asked same
  · exact .scripted _ nofun asked same

theorem answer_registry {call : ApiCall} {subject : String} {body : Option Bytes}
    {proper : Server → Except ApiError α × Server}
    (kept : ∀ server, registry (proper server).2 = registry server) (server : Server) :
    registry (Server.answer call subject body proper server).2 = registry server := by
  have how := answer_cases call subject body proper server
  generalize Server.answer call subject body proper server = result at how ⊢
  cases how with
  | answered asked same value after does =>
    have unchanged := kept asked
    rw [does] at unchanged
    exact unchanged.trans same
  | refused asked same error after does =>
    have unchanged := kept asked
    rw [does] at unchanged
    exact unchanged.trans same
  | scripted response improper after same => exact same

theorem onStream_registry {stream : String} {proper : Server → Except ApiError α × Server}
    (kept : ∀ server, registry (proper server).2 = registry server) (server : Server) :
    registry (Server.onStream stream proper server).2 = registry server := by
  unfold Server.onStream
  split
  · exact kept server
  · rfl

theorem streamInfo_hidden (stream : String) : Hidden known (Server.streamInfo stream) :=
  fun client => answer_registry (onStream_registry fun _ => rfl) client.network.server

theorem consumerInfo_hidden (stream name : String) :
    Hidden known (Server.consumerInfo stream name) := by
  refine fun client => answer_registry (onStream_registry fun server => ?_) client.network.server
  split <;> rfl

theorem keeps_subscribe (port : Nat) (consumer : Consumer) :
    Keeps known (Client.subscribe port consumer) :=
  .mapError <| .bind (.mapError (keeps_findStream _ (streamInfo_hidden _))) fun _ =>
    .bind (.mapError (keeps_deliverSubject _ (consumerInfo_hidden _ _))) fun _ =>
      .bind (Hidden.keeps fun _ => rfl) fun _ => fun _ => rfl

theorem keeps_openContext : Keeps known Client.openContext :=
  .bind (fun _ => rfl) fun _ => .check fun _ => .pure _

/-- Which consumers there are once a server has kept one is a matter of its registry. -/
theorem store_consumers (stream name : String) (config : PushConfig) {server other : Server}
    (same : registry other = registry server) :
    (other.store stream name config).2.consumers =
      (server.store stream name config).2.consumers := by
  simp only [registry, Prod.mk.injEq] at same
  obtain ⟨consumers, streamAlias, nameAlias⟩ := same
  simp only [Server.store, consumers, streamAlias, nameAlias]

theorem make_ask (expected : Json.Fit α) (request : Server → Response α × Server)
    (client : Client) :
    (Client.ask expected request).make client =
      if client.link.isOpen then
        (Response.read expected (request client.network.server).1,
          { client with network := { client.network with
            server := (request client.network.server).2 } })
      else (.error .closed, client) := by
  rw [Client.ask, make_bind, make_get]
  dsimp only
  split
  · rw [make_bind, make_useServer]
    exact make_liftExcept _ _
  · rfl

end server

/-- What a request does to the registry: nothing, or it keeps one consumer there, and then it does
not fail but gives what `fits`. -/
inductive Registers {ε α : Type} (stream name : String) (config : PushConfig) (fits : α → Prop)
    (client : Client) : Except ε α × Client → Prop where
  | unchanged (answer : Except ε α) (after : Client) (same : known after = known client) :
      Registers stream name config fits client (answer, after)
  | kept (value : α) (fit : fits value) (after : Client)
      (consumers : after.network.server.consumers =
        (client.network.server.store stream name config).2.consumers) :
      Registers stream name config fits client (.ok value, after)

section registers
variable {ε δ α β : Type} {stream name : String} {config : PushConfig} {fits : α → Prop}
  {holds : β → Prop}

theorem Registers.mapError {wrap : ε → δ} {request : Request Client ε α} {client : Client}
    (registers : Registers stream name config fits client (request.make client)) :
    Registers stream name config fits client ((request.mapError wrap).make client) := by
  rw [make_mapError]
  generalize request.make client = result at registers
  cases registers with
  | unchanged answer after same => exact .unchanged _ after same
  | kept value fit after consumers => exact .kept value fit after consumers

/-- What is asked before keeps the registry. -/
theorem Registers.after {request : Request Client ε β} {next : β → Request Client ε α}
    (keeps : Keeps known request)
    (registers : ∀ value middle,
      Registers stream name config fits middle ((next value).make middle))
    (client : Client) :
    Registers stream name config fits client ((request >>= next).make client) := by
  have same := keeps client
  rw [make_bind]
  generalize request.make client = result at same
  obtain ⟨error | value, middle⟩ := result
  · exact .unchanged _ middle same
  have rest := registers value middle
  dsimp only
  generalize (next value).make middle = last at rest
  cases rest with
  | unchanged answer after unchanged => exact .unchanged answer after (unchanged.trans same)
  | kept value fit after consumers =>
    exact .kept value fit after (consumers.trans (store_consumers stream name config same))

/-- What is done with the answer keeps the registry, and takes an answer that fits. -/
theorem Registers.bind {request : Request Client ε α} {next : α → Request Client ε β}
    {client : Client} (registers : Registers stream name config fits client (request.make client))
    (keeps : ∀ value, Keeps known (next value))
    (takes : ∀ value, fits value → ∀ middle,
      ∃ result, ((next value).make middle).1 = .ok result ∧ holds result) :
    Registers stream name config holds client ((request >>= next).make client) := by
  rw [make_bind]
  generalize request.make client = result at registers
  cases registers with
  | unchanged answer middle same =>
    cases answer with
    | error error => exact .unchanged _ middle same
    | ok value => exact .unchanged _ _ ((keeps value middle).trans same)
  | kept value fit middle consumers =>
    have same := keeps value middle
    obtain ⟨result, answer, holding⟩ := takes value fit middle
    dsimp only
    generalize (next value).make middle = last at same answer
    obtain ⟨_, after⟩ := last
    cases answer
    exact .kept result holding after ((congrArg Prod.fst same).trans consumers)

end registers

/-- Whether a server describes a consumer as it was asked for. -/
def Describes (config : PushConfig) (description : ConsumerDescription) : Prop :=
  description.heartbeat = PushConfig.sentSpan config.idleHeartbeat ∧
    description.deliverSubject = some config.deliverSubject

theorem createConsumer_cases (stream name : String) (config : PushConfig) (server : Server) :
    Answers (Server.onStream stream fun server =>
      (.ok ((server.store stream name config).1.description false),
        (server.store stream name config).2)) server
      (Server.createConsumer stream name config server) :=
  answer_cases _ _ _ _ server

/-- A server that answers a request for a consumer properly has stored what it describes; it says
that the stream is not there before it stores anything. -/
theorem ask_registers (stream name : String) (config : PushConfig) (client : Client) :
    Registers stream name config (Describes config) client
      ((Client.ask Description.consumer (Server.createConsumer stream name config)).make
        client) := by
  rw [make_ask]
  split
  · have how := createConsumer_cases stream name config client.network.server
    generalize Server.createConsumer stream name config client.network.server = result at how
    cases how with
    | answered asked same description after does =>
      unfold Server.onStream at does
      split at does
      · cases does
        exact .kept _ ⟨by simp only [StoredConsumer.description, Server.store], rfl⟩ _
          (store_consumers stream name config same)
      · cases does
    | refused asked same error after does =>
      unfold Server.onStream at does
      split at does
      · cases does
      · cases does
        exact .unchanged _ _ same
    | scripted response improper after same => exact .unchanged _ _ same
  · exact .unchanged _ client rfl

/-- A client takes the description of a consumer that the server has stored: the heartbeat reads
back as it was sent, if that is not negative, and there is a deliver subject. -/
theorem createConsumer_registers (stream : String) {config : ConsumerConfig}
    (mild : 0 ≤ PushConfig.sentSpan config.idleHeartbeat) (client : Client) :
    Registers stream config.durableName (PushConfig.ofConsumer config) (fun _ => True) client
      ((Client.createConsumer stream config).make client) := by
  refine .mapError (.after (.mapError (keeps_findStream stream (streamInfo_hidden stream)))
    (fun _ client => ?_) client)
  have asked : Registers stream config.durableName (PushConfig.ofConsumer config)
      (Describes (.ofConsumer config)) client
      ((Client.askConsumer (Server.createConsumer stream config.durableName
        (PushConfig.ofConsumer config))).make client) := by
    refine .bind (ask_registers stream config.durableName (.ofConsumer config) client)
      (fun _ => .check fun _ => .pure _) fun description describes client => ?_
    have readable : ¬ description.heartbeat < 0 := by
      rw [describes.1]
      exact Int.not_lt.mpr mild
    exact ⟨description, by rw [if_neg readable]; rfl, describes⟩
  refine .bind (.mapError asked) (fun _ => .check fun _ => .pure _)
    fun description describes client => ?_
  have pushed : ¬ description.deliverSubject.isNone := by
    rw [describes.2]
    exact Bool.false_ne_true
  exact ⟨_, by rw [if_neg pushed]; rfl, trivial⟩

/-- Attaching to a server fails with the registry as it was, or at the subscription, which the
consumer is made before. -/
theorem served_failed {port : Nat} {params : SourceParams} {origin after : Client}
    {error : SourceError}
    (failed : (Reader.attach port params).make origin = (.error error, after)) :
    known after = known origin ∨
      (∃ reason, error = .broker (.failed .subscribe reason)) ∧
        ∃ config, params.consumerConfig = .ok config ∧
          after.network.server.consumers =
            (origin.network.server.store params.stream params.durable
              (.ofConsumer config)).2.consumers := by
  have mild {config : ConsumerConfig} (configured : params.consumerConfig = .ok config) :
      0 ≤ PushConfig.sentSpan config.idleHeartbeat := by
    obtain ⟨position, decoded, rfl⟩ := consumerConfig_ok configured
    exact show 0 ≤ PushConfig.sentSpan heartbeatInterval by decide
  cases attach_failed failed with
  | unreadable => exact .inl rfl
  | unopened error _ opens => exact .inl (keeps_openContext.made opens)
  | uncreated config opened error _ configured opens creates =>
    have registers := createConsumer_registers params.stream (mild configured) opened
    rw [show (Client.createConsumer params.stream config).make opened = _ from creates] at registers
    -- A consumer that is kept comes with an answer, so here there is none.
    cases registers with
    | unchanged answer after same => exact .inl (same.trans (keeps_openContext.made opens))
  | unsubscribed config opened made consumer error _ configured opens creates subscribes =>
    have registers := createConsumer_registers params.stream (mild configured) opened
    rw [show (Client.createConsumer params.stream config).make opened = _ from creates] at registers
    have origins := keeps_openContext.made opens
    have last := (keeps_subscribe port consumer).made subscribes
    obtain ⟨reason, named, -⟩ := mapError_failed subscribes
    cases registers with
    | unchanged answer made same => exact .inl (last.trans (same.trans origins))
    | kept consumer fit made consumers =>
      refine .inr ⟨⟨reason, by rw [named]⟩, config, configured, ?_⟩
      have durable : config.durableName = params.durable := by
        obtain ⟨position, decoded, rfl⟩ := consumerConfig_ok configured
        rfl
      rw [durable] at consumers
      exact (congrArg Prod.fst last).trans
        (consumers.trans (store_consumers _ _ _ origins))

/-- What a failed attachment leaves. Where the position cannot be read, no broker of whatever kind
has been asked for anything. A broker in memory is left as it was. A server keeps the consumers that
it kept, unless the subscription is what failed: the consumer that was made for it is then still
there. -/
theorem failed_attach_leaves (port : Nat) (params : SourceParams) :
    (∀ (β ρ : Type) [Broker β ρ] (origin : β) (fault : Json.ReadError),
      Position.decode params.position = .error fault →
        (Reader.attach port params).make origin = (.error (.badPosition fault), origin)) ∧
    (∀ (origin after : MemoryBroker) (error : SourceError),
      (Reader.attach port params).make origin = (.error error, after) → after = origin) ∧
    ∀ (origin after : Client) (error : SourceError),
      (Reader.attach port params).make origin = (.error error, after) →
        after.network.server.consumers = origin.network.server.consumers ∨
          (∃ reason, error = .broker (.failed .subscribe reason)) ∧
            ∃ config, params.consumerConfig = .ok config ∧
              after.network.server.consumers =
                (origin.network.server.store params.stream params.durable
                  (.ofConsumer config)).2.consumers :=
  ⟨fun _ _ _ origin _ fault => attach_unreadable port fault origin,
    fun _ _ _ failed => memory_failed failed,
    fun _ _ _ failed => (served_failed failed).imp_left (congrArg Prod.fst)⟩

/-- A source that starts afresh, and one whose position is not JSON. -/
def afresh : SourceParams :=
  ⟨64, "orders-durable", "ORDERS", "orders.created", .empty, .all, .explicit⟩

def garbled : SourceParams := { afresh with position := .ofText "?" }

/-- A server that nobody answers at about consumers. -/
def silent : Client where
  network := .ofServer { Server.fresh [] with
    streams := [("ORDERS", [])]
    failures := [(.consumerInfo, [.noResponders])] }
  link := ⟨0, true, false⟩

/-- A broker in memory that makes no consumers. -/
def unwilling : MemoryBroker := MemoryBroker.fresh.setFailing .createConsumer true

theorem failed_attach_leaves_each :
    (∃ fault, Position.decode garbled.position = .error fault ∧
      (Reader.attach 0 garbled).make silent = (.error (.badPosition fault), silent)) ∧
    (∃ error after, (Reader.attach 0 afresh).make unwilling = (.error error, after) ∧
      after = unwilling) ∧
    ∃ error after config, (Reader.attach 0 afresh).make silent = (.error error, after) ∧
      afresh.consumerConfig = .ok config ∧
      (after.network.server.consumers = [] ∨
        after.network.server.consumers = [⟨"ORDERS", "orders-durable", .ofConsumer config⟩]) := by
  obtain ⟨refused, -, -⟩ := failed_attach_leaves 0 garbled
  obtain ⟨-, inMemory, served⟩ := failed_attach_leaves 0 afresh
  have configured : ∃ config, afresh.consumerConfig = .ok config := ⟨_, rfl⟩
  obtain ⟨config, configured⟩ := configured
  refine ⟨⟨_, rfl, refused _ _ silent _ rfl⟩, ⟨_, _, rfl, inMemory unwilling _ _ rfl⟩,
    _, _, config, rfl, configured, ?_⟩
  rcases served silent _ _ rfl with kept | ⟨-, other, given, stored⟩
  · exact .inl kept
  · cases configured.symm.trans given
    exact .inr stored

/-- A subscription fails for want of an answer about the consumer that was made for it. No reader
is left to delete that consumer, and the server keeps it. -/
theorem consumer_left_behind :
    ∃ after, (Reader.attach 0 afresh).make silent =
        (.error (.broker (.failed .subscribe
          "bind durable orders-durable: requested JetStream resource does not exist")), after) ∧
      silent.network.server.consumers = [] ∧
      after.network.server.consumers.map (·.name) = ["orders-durable"] :=
  ⟨_, rfl, rfl, rfl⟩

end StreamBridge.Proofs.Attachments
