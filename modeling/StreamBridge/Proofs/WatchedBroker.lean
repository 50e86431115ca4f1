import StreamBridge.Relay.Run
import StreamBridge.Proofs.ReaderCalls

/-! A broker whose requests are noted, each with its answer. Watching changes nothing: what is done
over a watched broker comes to the same as over the broker itself, and the notes grow at their end
by the requests that were made. -/

namespace StreamBridge.Proofs.WatchedBroker
open BrokerRequests ReaderCalls

/-- A request that was made of a broker, with its answer. -/
inductive Call (ρ : Type) where
  | connect (settings : ConnectionSettings) (answer : Except BrokerError Unit)
  | openContext (answer : Except BrokerError Unit)
  | createConsumer (stream : String) (config : ConsumerConfig)
      (answer : Except BrokerError Consumer)
  | subscribe (port : Nat) (subject : String) (consumer : Consumer)
      (answer : Except BrokerError Unit)
  | unsubscribe (port : Nat) (answer : Except BrokerError Unit)
  | deleteConsumer (stream name : String) (answer : Except BrokerError Unit)
  | acknowledge (receipt : ρ) (answer : Except BrokerError Unit)
  | publish (subject : String) (payload : Bytes) (options : PublishOptions)
      (answer : Except BrokerError Unit)
  | close (answer : Except BrokerError Unit)

/-- A broker with the requests that were made of it. -/
structure Watched (β ρ : Type) where
  broker : β
  calls : List (Call ρ)

variable {β ρ ε δ α : Type}

/-- Makes a request and notes it. -/
def noting (note : Except ε α → Call ρ) (request : Request β ε α) : Request (Watched β ρ) ε α :=
  fun watched =>
    let (answer, broker) := request.make watched.broker
    (answer, ⟨broker, watched.calls ++ [note answer]⟩)

instance [Broker β ρ] : Broker (Watched β ρ) ρ where
  connect settings := noting (.connect settings) (Broker.connect settings)
  openContext := noting .openContext Broker.openContext
  createConsumer stream config :=
    noting (.createConsumer stream config) (Broker.createConsumer stream config)
  subscribe port subject consumer :=
    noting (.subscribe port subject consumer) (Broker.subscribe port subject consumer)
  unsubscribe port := noting (.unsubscribe port) (Broker.unsubscribe port)
  deleteConsumer stream name :=
    noting (.deleteConsumer stream name) (Broker.deleteConsumer stream name)
  acknowledge receipt := noting (.acknowledge receipt) (Broker.acknowledge receipt)
  publish subject payload options :=
    noting (.publish subject payload options) (Broker.publish subject payload options)
  close := noting .close Broker.close
  latency watched := Broker.latency watched.broker
  feeds watched := Broker.feeds watched.broker
  forward watched port channel :=
    let (channel, broker) := Broker.forward watched.broker port channel
    (channel, { watched with broker := broker })
  backlog watched := Broker.backlog watched.broker

/-- What happens around a relay whose broker is watched. What changes the broker does not touch the
notes. -/
def watchHappening : Happening β ρ → Happening (Watched β ρ) ρ
  | .deliver delivery => .deliver delivery
  | .input bytes => .input bytes
  | .inputEnds => .inputEnds
  | .change apply => .change fun watched => { watched with broker := apply watched.broker }
  | .cancel => .cancel
  | .turn => .turn
  | .turns => .turns

/-- A request over a watched broker that comes to the same as one over the broker, and makes only
calls of one kind. -/
def Watches (kind : Call ρ → Prop) (watched : Request (Watched β ρ) ε α) (plain : Request β ε α) :
    Prop :=
  ∀ broker calls, ∃ more, (∀ call ∈ more, kind call) ∧
    watched.make ⟨broker, calls⟩ =
      ((plain.make broker).1, ⟨(plain.make broker).2, calls ++ more⟩)

section requests
variable {kind : Call ρ → Prop}

theorem watches_noting {note : Except ε α → Call ρ} (request : Request β ε α)
    (fits : ∀ answer, kind (note answer)) : Watches kind (noting note request) request :=
  fun broker _ => ⟨[note (request.make broker).1],
    fun _ member => List.mem_singleton.mp member ▸ fits _, rfl⟩

end requests

/-- A request that opens one end of a relay. -/
inductive Opens : Call ρ → Prop where
  | connect (settings : ConnectionSettings) (answer : Except BrokerError Unit) :
      Opens (.connect settings answer)
  | openContext (answer : Except BrokerError Unit) : Opens (.openContext answer)
  | createConsumer (stream : String) (config : ConsumerConfig)
      (answer : Except BrokerError Consumer) : Opens (.createConsumer stream config answer)
  | subscribe (port : Nat) (subject : String) (consumer : Consumer)
      (answer : Except BrokerError Unit) : Opens (.subscribe port subject consumer answer)

section opening
variable [Broker β ρ]

end opening

/-- A reader that works as it was opened, with these calls in its channel's line and none in its
gate's. -/
structure Works (opened : Reader ρ) (line : List Nat) (reader : Reader ρ) : Prop where
  channelLine : reader.channelLine = line
  gateLine : reader.gateLine = []
  subscribed : reader.subscribed = true
  port : reader.port = opened.port
  consumer : reader.consumer = opened.consumer

section reading
variable {opened reader : Reader ρ} {line : List Nat}

theorem Works.leave (works : Works opened line reader) (only : ∀ call ∈ line, call = 0) :
    Works opened [] (reader.leaveChannel 0) := by
  refine ⟨?_, works.gateLine, works.subscribed, works.port, works.consumer⟩
  rw [Reader.leaveChannel, works.channelLine]
  exact List.filter_eq_nil_iff.mpr fun call member => by simp [only call member]

theorem lineAt_only (stage : ReadStage ρ) : ∀ call ∈ lineAt stage, call = 0 := by
  cases stage <;> simp [lineAt]

def lineAfter (stage : ReadStage ρ) : Reader.ReadProgress ρ → List Nat
  | .next later => lineAt later
  | .waiting => lineAt stage
  | .finished _ => []

theorem Works.stepRead {stage : ReadStage ρ} (works : Works opened (lineAt stage) reader)
    (cancelled fed : Bool) :
    Works opened (lineAfter stage (reader.stepRead 0 cancelled fed stage).1)
      (reader.stepRead 0 cancelled fed stage).2 := by
  have left := works.leave (lineAt_only stage)
  cases stage with
  | entering =>
    simp only [Reader.stepRead, Reader.enterRead]
    split
    · exact works
    · exact { works with channelLine := by rw [works.channelLine]; rfl }
  | queueing =>
    simp only [Reader.stepRead, Reader.queueRead]
    split
    · exact left
    · split <;> exact works
  | listening =>
    simp only [Reader.stepRead, Reader.listen]
    split
    · exact left
    · split
      · exact { left with channelLine := left.channelLine }
      · split
        · exact left
        · exact works
  | holding message =>
    simp only [Reader.stepRead, Reader.handOut]
    split
    · exact works
    · rw [track_pending]
      exact { works with channelLine := works.channelLine }

theorem Works.readFor (stage : ReadStage ρ) (works : Works opened (lineAt stage) reader)
    (cancelled fed : Bool) (steps : Nat) :
    Works opened [] (reader.readFor cancelled fed steps stage).2 := by
  induction steps generalizing stage reader with
  | zero => exact works.leave (lineAt_only stage)
  | succ steps ih =>
    have stepped := works.stepRead cancelled fed
    rw [Reader.readFor]
    generalize reader.stepRead 0 cancelled fed stage = result at stepped
    obtain ⟨_ | _ | _, after⟩ := result
    · exact ih _ stepped
    · exact stepped.leave (lineAt_only stage)
    · exact stepped

theorem Works.read (works : Works opened [] reader) (cancelled fed : Bool) :
    Works opened [] (reader.read cancelled fed).2 :=
  Works.readFor .entering works cancelled fed 4

end reading

/-- A request that a relay makes while it works. -/
inductive Acknowledges : Call ρ → Prop where
  | acknowledge (receipt : ρ) (answer : Except BrokerError Unit) :
      Acknowledges (.acknowledge receipt answer)

section acknowledging
variable {opened reader : Reader ρ}

private theorem Works.unasked (works : Works opened [] reader)
    (result : Option (Except SourceError Unit)) (broker : β) (calls : List (Call ρ)) :
    ∃ more, (∀ call ∈ more, Acknowledges call) ∧
      ((result, reader), (⟨broker, calls⟩ : Watched β ρ)) =
        ((result, reader), ⟨broker, calls ++ more⟩) ∧ Works opened [] reader :=
  ⟨[], List.forall_mem_nil _, by rw [List.append_nil], works⟩

variable [Broker β ρ]

theorem Works.settle (works : Works opened [] reader) (receipt : ρ) (broker : β)
    (calls : List (Call ρ)) :
    ∃ more, (∀ call ∈ more, Acknowledges call) ∧
      settle receipt reader (⟨broker, calls⟩ : Watched β ρ) =
        ((settle receipt reader broker).1, ⟨(settle receipt reader broker).2, calls ++ more⟩) ∧
      Works opened [] (settle receipt reader broker).1.2 := by
  have watches : Watches Acknowledges
      (Broker.acknowledge receipt : Request (Watched β ρ) BrokerError Unit)
      (Broker.acknowledge receipt) := watches_noting _ (.acknowledge receipt)
  obtain ⟨more, only, made⟩ := watches broker calls
  refine ⟨more, only, ?_⟩
  simp only [ReaderCalls.settle, made]
  rcases (Broker.acknowledge receipt).make broker with ⟨error | ⟨⟩, after⟩
  · exact ⟨rfl, works⟩
  · exact ⟨rfl, { works with channelLine := works.channelLine }⟩

theorem Works.settleHead (works : Works opened [] reader) (token : Token) (broker : β)
    (calls : List (Call ρ)) :
    ∃ more, (∀ call ∈ more, Acknowledges call) ∧
      settleHead token reader (⟨broker, calls⟩ : Watched β ρ) =
        ((settleHead token reader broker).1,
          ⟨(settleHead token reader broker).2, calls ++ more⟩) ∧
      Works opened [] (settleHead token reader broker).1.2 := by
  unfold ReaderCalls.settleHead
  cases reader.pending with
  | nil => exact works.unasked _ broker calls
  | cons head rest =>
    by_cases same : head.token = token
    · simp only [if_pos same]
      exact works.settle head.delivery.receipt broker calls
    · simp only [if_neg same]
      exact works.unasked _ broker calls

theorem Works.acknowledge (works : Works opened [] reader) (token : Token) (broker : β)
    (calls : List (Call ρ)) :
    ∃ more, (∀ call ∈ more, Acknowledges call) ∧
      reader.acknowledge token (⟨broker, calls⟩ : Watched β ρ) =
        ((reader.acknowledge token broker).1,
          ⟨(reader.acknowledge token broker).2, calls ++ more⟩) ∧
      Works opened [] (reader.acknowledge token broker).1.2 := by
  rw [acknowledge_alone token reader _ works.gateLine,
    acknowledge_alone token reader _ works.gateLine]
  by_cases stopped : reader.stopped = true
  · simp only [if_pos stopped]
    exact works.unasked _ broker calls
  · simp only [if_neg stopped]
    by_cases untracked : reader.tracks = false
    · simp only [if_pos untracked]
      exact works.unasked _ broker calls
    · simp only [if_neg untracked]
      exact works.settleHead token broker calls

end acknowledging

/-- The requests of a teardown that follow the end of the subscription, with what they come to. -/
inductive Deletes (consumer : Consumer) : List (Call ρ) → Except BrokerError Unit → Prop where
  | undeleted (error : BrokerError) :
      Deletes consumer [.deleteConsumer consumer.stream consumer.name (.error error)]
        (.error error)
  | closed (answer : Except BrokerError Unit) :
      Deletes consumer [.deleteConsumer consumer.stream consumer.name (.ok ()), .close answer]
        answer

/-- The requests of a teardown, with what they come to: the first that fails is the last. -/
inductive TearsDown (port : Nat) (consumer : Consumer) :
    List (Call ρ) → Except BrokerError Unit → Prop where
  | subscribed (error : BrokerError) :
      TearsDown port consumer [.unsubscribe port (.error error)] (.error error)
  | unsubscribed {later : List (Call ρ)} {result : Except BrokerError Unit}
      (deletes : Deletes consumer later result) :
      TearsDown port consumer (.unsubscribe port (.ok ()) :: later) result

section stopping
variable [Broker β ρ]

theorem tearDown_watched (reader : Reader ρ) (broker : β) (calls : List (Call ρ)) :
    ∃ torn, Deletes reader.consumer torn ((tearDown reader).make broker).1 ∧
      (tearDown reader).make (⟨broker, calls⟩ : Watched β ρ) =
        (((tearDown reader).make broker).1,
          ⟨((tearDown reader).make broker).2, calls ++ torn⟩) := by
  let deletion : Request β BrokerError Unit :=
    Broker.deleteConsumer reader.consumer.stream reader.consumer.name
  have deletes : (Broker.deleteConsumer reader.consumer.stream reader.consumer.name).make
      (⟨broker, calls⟩ : Watched β ρ) =
        ((deletion.make broker).1, ⟨(deletion.make broker).2, calls ++
          [.deleteConsumer reader.consumer.stream reader.consumer.name
            (deletion.make broker).1]⟩) := rfl
  rw [tearDown, tearDown, make_bind, make_bind, deletes]
  rcases deletion.make broker with ⟨error | ⟨⟩, after⟩
  · exact ⟨_, .undeleted error, rfl⟩
  · have closes (calls : List (Call ρ)) : Broker.close.make (⟨after, calls⟩ : Watched β ρ) =
        ((Broker.close.make after).1,
          ⟨(Broker.close.make after).2, calls ++ [.close (Broker.close.make after).1]⟩) := rfl
    refine ⟨_, .closed (Broker.close.make after).1, ?_⟩
    simp only [closes, List.append_assoc, List.singleton_append]

theorem Works.stop {opened reader : Reader ρ} (works : Works opened [] reader) (broker : β)
    (calls : List (Call ρ)) :
    ∃ torn result, TearsDown opened.port opened.consumer torn result ∧
      reader.stop (⟨broker, calls⟩ : Watched β ρ) =
        ((reader.stop broker).1, ⟨(reader.stop broker).2, calls ++ torn⟩) ∧
      (reader.stop broker).1.1 = some (result.mapError .broker) := by
  have ends : (Broker.unsubscribe reader.port).make (⟨broker, calls⟩ : Watched β ρ) =
      (((Broker.unsubscribe reader.port).make broker).1,
        ⟨((Broker.unsubscribe reader.port).make broker).2,
          calls ++ [.unsubscribe reader.port ((Broker.unsubscribe reader.port).make broker).1]⟩) :=
    rfl
  rw [stop_alone reader _ works.channelLine works.gateLine,
    stop_alone reader _ works.channelLine works.gateLine, ← works.port, ← works.consumer]
  simp only [endSubscription, works.subscribed, if_true, ends]
  rcases (Broker.unsubscribe reader.port).make broker with ⟨error | ⟨⟩, after⟩
  · exact ⟨_, _, .subscribed error, rfl, rfl⟩
  · obtain ⟨torn, deletes, made⟩ :=
      tearDown_watched reader after (calls ++ [.unsubscribe reader.port (.ok ())])
    refine ⟨_, _, .unsubscribed deletes, ?_, rfl⟩
    simp only [made, List.append_assoc, List.singleton_append]

end stopping
end StreamBridge.Proofs.WatchedBroker
