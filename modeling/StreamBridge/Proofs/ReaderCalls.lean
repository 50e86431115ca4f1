import StreamBridge.Proofs.BrokerRequests
import StreamBridge.Proofs.ReaderSession

/-! What each call of a caller that works alone comes to, in one equation for each. Later proofs use
these instead of the stages that a call goes through. -/

namespace StreamBridge.Proofs.ReaderCalls
open ReaderSession BrokerRequests

variable {β ρ : Type}

/-- The channel's line where nobody but a reader's one call is in it, by how far that has got. -/
def lineAt : ReadStage ρ → List Nat
  | .entering | .holding _ => []
  | .queueing | .listening => [0]

theorem leaveChannel_alone (reader : Reader ρ) (line : reader.channelLine = [0]) :
    reader.leaveChannel 0 = { reader with channelLine := [] } := by
  simp [Reader.leaveChannel, line]

theorem leaveGate_alone (reader : Reader ρ) (line : reader.gateLine = [0]) :
    reader.leaveGate 0 = { reader with gateLine := [] } := by
  simp [Reader.leaveGate, line]

theorem track_pending (reader : Reader ρ) (token : Token) (delivery : Delivery ρ) :
    reader.track token delivery =
      { reader with
        pending := reader.pending ++ if reader.tracks then [⟨token, delivery⟩] else [] } := by
  cases tracks : reader.tracks <;> simp [Reader.track, tracks]

/-- Hands out the record of a message that was taken from the channel. -/
def handOver (delivery : Delivery ρ) (reader : Reader ρ) :
    Option (Except SourceError Record) × Reader ρ :=
  match reader.record delivery with
  | .error error => (some (.error error), reader)
  | .ok record => (some (.ok record), reader.track record.position delivery)

theorem advance_listening (reader : Reader ρ) (cancelled fed : Bool) (steps : Nat)
    (line : reader.channelLine = [0]) :
    advance cancelled fed (steps + 2) .listening reader =
      if cancelled then (some (.error .cancelled), { reader with channelLine := [] })
      else match reader.channel.take with
        | some (delivery, channel) =>
          handOver delivery { reader with channelLine := [], channel := channel }
        | none =>
          if reader.hungUp fed then (some (.error .stopped), { reader with channelLine := [] })
          else (none, reader) := by
  simp only [advance, Reader.stepRead, Reader.listen, leaveChannel_alone reader line]
  cases cancelled with
  | true => rfl
  | false =>
    cases reader.channel.take with
    | none =>
      by_cases spent : reader.hungUp fed <;> simp [spent]
    | some taken =>
      obtain ⟨delivery, channel⟩ := taken
      simp only [Bool.false_eq_true, if_false, Reader.handOut, handOver]
      cases Reader.record _ delivery <;> rfl

theorem advance_entering (reader : Reader ρ) (cancelled fed : Bool)
    (line : reader.channelLine = []) :
    advance cancelled fed 4 .entering reader =
      if reader.stopped then (some (.error .stopped), reader)
      else if cancelled then (some (.error .cancelled), { reader with started := true })
      else advance cancelled fed 2 .listening
        { reader with started := true, channelLine := [0] } := by
  simp only [advance, Reader.stepRead, Reader.enterRead, Reader.queueRead, line, List.nil_append]
  cases reader.stopped with
  | true => rfl
  | false =>
    cases cancelled with
    | true =>
      obtain ⟨⟩ := reader
      cases line
      rfl
    | false => rfl

/-- A read that is given up where it would wait is the read of a relay. -/
theorem readFor_advance (reader : Reader ρ) (cancelled fed : Bool) (steps : Nat)
    (stage : ReadStage ρ) :
    reader.readFor cancelled fed steps stage =
      match advance cancelled fed steps stage reader with
      | (none, reader) => (none, reader.leaveChannel 0)
      | finished => finished := by
  induction steps generalizing stage reader with
  | zero => rfl
  | succ steps ih =>
    simp only [Reader.readFor, advance]
    rcases reader.stepRead 0 cancelled fed stage with ⟨_ | _ | result, after⟩
    · exact ih after _
    · rfl
    · rfl

/-- Asks the broker to acknowledge a message; if it does, the oldest record is off the list. -/
def settle [Broker β ρ] (receipt : ρ) (reader : Reader ρ) (broker : β) :
    (Option (Except SourceError Unit) × Reader ρ) × β :=
  match (Broker.acknowledge receipt).make broker with
  | (.error error, broker) => ((some (.error (.broker error)), reader), broker)
  | (.ok (), broker) => ((some (.ok ()), { reader with pending := reader.pending.tail }), broker)

/-- Settles the oldest record, if the token is its own. -/
def settleHead [Broker β ρ] (token : Token) (reader : Reader ρ) (broker : β) :
    (Option (Except SourceError Unit) × Reader ρ) × β :=
  match reader.pending with
  | [] => ((some (.error (.nothingPending token)), reader), broker)
  | head :: _ =>
    if head.token = token then settle head.delivery.receipt reader broker
    else ((some (.error (.outOfOrder token head.token)), reader), broker)

private theorem acknowledgeFor_due [Broker β ρ] (token : Token) (reader : Reader ρ) (broker : β)
    (delivery : Delivery ρ) {now due : Duration} (steps : Nat) (later : ¬ now < due)
    (line : reader.gateLine = [0]) :
    Reader.acknowledgeFor token (steps + 2) now (.asking due delivery) reader broker =
      settle delivery.receipt { reader with gateLine := [] } broker := by
  simp only [Reader.acknowledgeFor, Reader.stepAck, if_neg later, settle]
  rcases Request.make (Broker.acknowledge delivery.receipt) broker with ⟨error | ⟨⟩, after⟩
  · simp only [Reader.answerAck, leaveGate_alone reader line]
  · simp only [Reader.answerAck, Reader.popAck, leaveGate_alone reader line]

/-- The broker is asked once, however long its answer takes. -/
private theorem acknowledgeFor_asking [Broker β ρ] (token : Token) (reader : Reader ρ) (broker : β)
    (delivery : Delivery ρ) (due : Duration) (line : reader.gateLine = [0]) :
    Reader.acknowledgeFor token 3 ⟨0⟩ (.asking due delivery) reader broker =
      settle delivery.receipt { reader with gateLine := [] } broker := by
  by_cases early : (⟨0⟩ : Duration) < due
  · rw [Reader.acknowledgeFor]
    simp only [Reader.stepAck, if_pos early, AckStage.due?]
    exact acknowledgeFor_due token reader broker delivery 0 (Nat.lt_irrefl due.nanoseconds) line
  · exact acknowledgeFor_due token reader broker delivery 1 early line

private theorem acknowledgeFor_comparing [Broker β ρ] (token : Token) (reader : Reader ρ)
    (broker : β) (line : reader.gateLine = [0]) :
    Reader.acknowledgeFor token 4 ⟨0⟩ .comparing reader broker =
      settleHead token { reader with gateLine := [] } broker := by
  rw [Reader.acknowledgeFor]
  simp only [Reader.stepAck, Reader.compareAck, settleHead, leaveGate_alone reader line]
  cases pending : reader.pending with
  | nil => rfl
  | cons head rest =>
    by_cases same : head.token = token
    · simp only [if_pos same]
      rw [acknowledgeFor_asking token reader broker head.delivery _ line, pending]
    · simp only [if_neg same]

theorem acknowledge_alone [Broker β ρ] (token : Token) (reader : Reader ρ) (broker : β)
    (line : reader.gateLine = []) :
    reader.acknowledge token broker =
      if reader.stopped then ((some (.error .stopped), reader), broker)
      else if reader.tracks = false then ((some (.ok ()), reader), broker)
      else settleHead token reader broker := by
  have left : { reader with gateLine := [] } = reader := by rw [← line]
  rw [Reader.acknowledge, Reader.acknowledgeFor]
  simp only [Reader.stepAck, Reader.enterAck, line, List.nil_append]
  by_cases stopped : reader.stopped = true
  · simp only [if_pos stopped]
  · simp only [if_neg stopped]
    cases tracks : reader.tracks with
    | false => rfl
    | true =>
      have compared := acknowledgeFor_comparing token { reader with gateLine := [0] } broker rfl
      simp only [left] at compared
      exact compared

/-- Ends the subscription, where an earlier stop has not. -/
def endSubscription [Broker β ρ] (reader : Reader ρ) : Request β BrokerError Unit :=
  if reader.subscribed then Broker.unsubscribe reader.port else pure ()

/-- What a stop asks of the broker once the reader is shut. -/
def tearDown [Broker β ρ] (reader : Reader ρ) : Request β BrokerError Unit := do
  Broker.deleteConsumer reader.consumer.stream reader.consumer.name
  Broker.close

/-- A reader whose stop has got past the end of its subscription. -/
def shut (reader : Reader ρ) : Reader ρ :=
  { reader with
    stopped := true
    subscribed := false
    channel := reader.channel.close
    pending := if reader.tracks then [] else reader.pending }

private theorem stopFor_deleting [Broker β ρ] (reader : Reader ρ) (broker : β) :
    Reader.stopFor 2 .deleting reader broker =
      let (result, broker) := (tearDown reader).make broker
      ((some (result.mapError .broker), reader), broker) := by
  have teardown : (tearDown reader).make broker =
      match (Broker.deleteConsumer reader.consumer.stream reader.consumer.name).make broker with
      | (.error error, broker) => (.error error, broker)
      | (.ok (), broker) => (Broker.close (β := β)).make broker := by
    simp only [tearDown, Request.make, bind, ExceptT.run, ExceptT.bind, ExceptT.mk, StateT.bind]
    rcases Broker.deleteConsumer reader.consumer.stream reader.consumer.name broker with
      ⟨error | ⟨⟩, after⟩ <;> rfl
  rw [teardown]
  simp only [Reader.stopFor, Reader.stepStop, Reader.deleteConsumer]
  rcases Request.make _ broker with ⟨error | ⟨⟩, after⟩
  · rfl
  · simp only [Reader.disconnect]
    rcases Request.make _ after with ⟨error | ⟨⟩, final⟩ <;> rfl

private theorem closeChannel_alone (reader : Reader ρ) (line : reader.channelLine = [0])
    (gate : reader.gateLine = []) :
    reader.closeChannel 0 = (.next .draining,
      { reader with
        channelLine := []
        channel := reader.channel.close
        gateLine := if reader.tracks then [0] else [] }) := by
  simp only [Reader.closeChannel, leaveChannel_alone reader line, line, gate]
  cases tracks : reader.tracks with
  | true => rfl
  | false =>
    obtain ⟨⟩ := reader
    cases gate
    rfl

private theorem drain_alone (reader : Reader ρ)
    (gate : reader.gateLine = if reader.tracks then [0] else []) :
    reader.drain 0 = (.next .deleting,
      { reader with gateLine := [], pending := if reader.tracks then [] else reader.pending }) := by
  cases tracks : reader.tracks with
  | true =>
    rw [tracks] at gate
    simp only [Reader.drain, tracks, gate, leaveGate_alone reader gate]
    rfl
  | false =>
    rw [tracks] at gate
    obtain ⟨⟩ := reader
    cases gate
    simp only [Reader.drain, tracks]
    rfl

private theorem stopFor_closing [Broker β ρ] (reader : Reader ρ) (broker : β)
    (line : reader.channelLine = [0]) (gate : reader.gateLine = []) :
    Reader.stopFor 4 .closing reader broker =
      let (result, broker) := (tearDown reader).make broker
      ((some (result.mapError .broker),
        { reader with
          channelLine := []
          channel := reader.channel.close
          gateLine := []
          pending := if reader.tracks then [] else reader.pending }), broker) := by
  rw [Reader.stopFor]
  simp only [Reader.stepStop]
  rw [closeChannel_alone reader line gate]
  simp only
  rw [Reader.stopFor]
  simp only [Reader.stepStop]
  rw [drain_alone _ rfl]
  exact stopFor_deleting _ broker

theorem stop_alone [Broker β ρ] (reader : Reader ρ) (broker : β) (line : reader.channelLine = [])
    (gate : reader.gateLine = []) :
    reader.stop broker =
      match (endSubscription reader).make broker with
      | (.error error, broker) =>
        ((some (.error (.broker error)), { reader with stopped := true }), broker)
      | (.ok (), broker) =>
        let (result, broker) := (tearDown reader).make broker
        ((some (result.mapError .broker), shut reader), broker) := by
  have closing (broker : β) :
      Reader.stopFor 4 .closing
        { reader with stopped := true, subscribed := false, channelLine := [0] } broker =
          let (result, broker) := (tearDown reader).make broker
          ((some (result.mapError .broker), shut reader), broker) := by
    have closed := stopFor_closing
      { reader with stopped := true, subscribed := false, channelLine := [0] } broker rfl gate
    rw [closed, shut, line, gate]
    rfl
  rw [Reader.stop, Reader.stopFor]
  simp only [Reader.stepStop]
  rw [Reader.stopFor]
  simp only [Reader.stepStop, Reader.unsubscribe, endSubscription, line, List.nil_append]
  by_cases subscribed : reader.subscribed = true
  · simp only [if_pos subscribed]
    rcases Request.make (Broker.unsubscribe reader.port) broker with ⟨error | ⟨⟩, after⟩
    · rfl
    · exact closing after
  · simp only [if_neg subscribed]
    refine Eq.trans ?_ (closing broker)
    rw [← Bool.not_eq_true _ |>.mp subscribed]

/-! The requests of a reader to a broker in memory. -/

theorem endSubscription_memory (reader : Reader UInt64) (broker : MemoryBroker) :
    (endSubscription reader).make broker =
      if reader.subscribed then
        if broker.fails .unsubscribe then
          (.error (.failed .unsubscribe "mock unsubscribe failure"), broker)
        else (.ok (), { broker with live := none, unsubscribed := broker.unsubscribed + 1 })
      else (.ok (), broker) := by
  rw [endSubscription, ← make_unsubscribe reader.port]
  cases reader.subscribed <;> rfl

theorem tearDown_memory (reader : Reader UInt64) (broker : MemoryBroker) :
    (tearDown reader).make broker =
      if broker.fails .deleteConsumer then
        (.error (.failed .deleteConsumer "mock delete failure"), broker)
      else (.ok (), { broker with
        deleted := broker.deleted ++ [(reader.consumer.stream, reader.consumer.name)]
        closings := broker.closings + 1 }) := by
  rw [tearDown, make_bind, make_deleteConsumer]
  cases broker.fails .deleteConsumer with
  | true => rfl
  | false => exact make_close _

/-- The consumer of a source whose position can be read. -/
theorem consumerConfig_ok {params : SourceParams} {config : ConsumerConfig}
    (configured : params.consumerConfig = .ok config) :
    ∃ position, Position.decode params.position = .ok position ∧ config =
      { durableName := params.durable
        deliverSubject := params.durable ++ "." ++ params.stream
        deliverPolicy := params.startPolicy position
        ackPolicy := params.ackPolicy
        replayPolicy := .instant
        flowControl := true
        idleHeartbeat := heartbeatInterval } := by
  unfold SourceParams.consumerConfig at configured
  split at configured
  · cases configured
  next position decoded =>
    cases configured
    exact ⟨position, decoded, rfl⟩

/-- A source is refused for a position that cannot be read, and for nothing else. -/
theorem consumerConfig_refused_iff (params : SourceParams) (error : SourceError) :
    params.consumerConfig = .error error ↔
      ∃ fault, Position.decode params.position = .error fault ∧ error = .badPosition fault := by
  unfold SourceParams.consumerConfig
  split
  next fault decoded => simp [decoded, eq_comm]
  next position decoded => simp [decoded]

/-- A reader is attached to a consumer that was made on the terms of its position, and that its
port has been subscribed to. -/
theorem attach_ok [Broker β ρ] {port : Nat} {params : SourceParams} {origin attached : β}
    {reader : Reader ρ}
    (attaches : (Reader.attach port params).make origin = (.ok reader, attached)) :
    ∃ config context made consumer, params.consumerConfig = .ok config ∧
      (Broker.openContext : Request β BrokerError Unit).make origin = (.ok (), context) ∧
      (Broker.createConsumer params.stream config).make context = (.ok consumer, made) ∧
      (Broker.subscribe port params.subject consumer).make made = (.ok (), attached) ∧
      reader = Reader.fresh port consumer params := by
  obtain ⟨config, start, configured, attaches⟩ := bind_ok attaches
  obtain ⟨consumer, made, opens, attaches⟩ := bind_ok attaches
  obtain ⟨⟨⟩, final, subscribes, attaches⟩ := bind_ok attaches
  obtain ⟨⟨⟩, context, ready, creates⟩ := bind_ok (mapError_ok opens)
  cases attaches
  rw [make_liftExcept, Prod.mk.injEq] at configured
  obtain ⟨configured, rfl⟩ := configured
  exact ⟨config, context, made, consumer, configured, ready, creates, mapError_ok subscribes, rfl⟩

theorem attach_memory {port : Nat} {params : SourceParams} {origin broker : MemoryBroker}
    {reader : Reader UInt64}
    (attached : (Reader.attach port params).make origin = (.ok reader, broker)) :
    ∃ config, params.consumerConfig = .ok config ∧
      reader = Reader.fresh port ⟨params.stream, config.durableName, config⟩ params ∧
      broker = { origin with
        consumers := origin.consumers ++ [⟨params.stream, config.durableName, config⟩]
        live := some port } := by
  obtain ⟨config, context, made, consumer, configured, opens, creates, subscribes, rfl⟩ :=
    attach_ok attached
  cases opens
  obtain ⟨rfl, rfl⟩ := make_createConsumer creates
  cases make_subscribe subscribes
  exact ⟨config, configured, rfl, rfl⟩

end StreamBridge.Proofs.ReaderCalls
