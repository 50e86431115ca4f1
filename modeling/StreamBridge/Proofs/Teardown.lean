import StreamBridge.Proofs.SessionConservation

/-! What the stops of a session do. A stop goes through its stages in one order, and each stage does
its own part: the first that fails ends the call, and what came before it stays done. So a later
stop takes up what is missing, and as long as no stop is called behind one that has succeeded, each
part is done once. -/

namespace StreamBridge.Proofs.Teardown
open ReaderSession ReaderCalls SessionSteps SessionHistory SessionConservation BrokerRequests

/-- The place of a stage among those of a stop. -/
def place : StopStage → Nat
  | .entering => 0
  | .unsubscribing => 1
  | .closing => 2
  | .draining => 3
  | .deleting => 4
  | .disconnecting => 5

/-- A step of a stop, whatever other calls are under way: it goes on to the next stage only, and
changes only what its own stage is about. -/
structure InTurn (stage : StopStage) (reader : Reader UInt64) (broker : MemoryBroker)
    (result : (Reader.StopProgress × Reader UInt64) × MemoryBroker) : Prop where
  next : ∀ later, result.1.1 = .next later → place later = place stage + 1
  finished : result.1.1 = .finished (.ok ()) → stage = .disconnecting
  unsubscribed : stage ≠ .unsubscribing → result.2.unsubscribed = broker.unsubscribed
  channel : stage ≠ .closing → result.1.2.channel = reader.channel
  pending : stage ≠ .draining → result.1.2.pending = reader.pending
  deleted : stage ≠ .deleting → result.2.deleted = broker.deleted
  closings : stage ≠ .disconnecting → result.2.closings = broker.closings
  acked : result.2.acked = broker.acked

theorem step_inTurn (call : Nat) (stage : StopStage) (reader : Reader UInt64)
    (broker : MemoryBroker) :
    InTurn stage reader broker (reader.stepStop call stage broker) := by
  cases stage with
  | entering => constructor <;> simp [Reader.stepStop, place]
  | unsubscribing =>
    simp only [Reader.stepStop, Reader.unsubscribe, make_unsubscribe]
    by_cases subscribed : reader.subscribed = true
    · rw [if_pos subscribed]
      by_cases fails : broker.fails .unsubscribe = true
      · rw [if_pos fails]
        constructor <;> simp
      · rw [if_neg fails]
        constructor <;> simp [place]
    · rw [if_neg subscribed]
      constructor <;> simp [place]
  | closing =>
    simp only [Reader.stepStop, Reader.closeChannel]
    by_cases head : reader.channelLine.head? = some call
    · rw [if_pos head]
      cases reader.tracks <;> constructor <;> simp [place, Reader.leaveChannel]
    · rw [if_neg head]
      constructor <;> simp
  | draining =>
    simp only [Reader.stepStop, Reader.drain]
    split
    next => constructor <;> simp [place]
    next =>
      split
      next => constructor <;> simp [place, Reader.leaveGate]
      next => constructor <;> simp
  | deleting =>
    simp only [Reader.stepStop, Reader.deleteConsumer, make_deleteConsumer]
    by_cases fails : broker.fails .deleteConsumer = true
    · rw [if_pos fails]
      constructor <;> simp
    · rw [if_neg fails]
      constructor <;> simp [place]
  | disconnecting =>
    simp only [Reader.stepStop, Reader.disconnect, make_close]
    constructor <;> simp

/-- Whether a stop that is called now fails to end the subscription. -/
def Refused (session : Session) : Prop :=
  session.reader.subscribed = true ∧ session.broker.fails .unsubscribe = true

/-- A stop has left everything as it was, but that the reader counts as stopped. -/
structure Untouched (session after : Session) : Prop where
  broker : after.broker = session.broker
  channel : after.reader.channel = session.reader.channel
  pending : after.reader.pending = session.reader.pending
  consumer : after.reader.consumer = session.reader.consumer
  subscribed : after.reader.subscribed = session.reader.subscribed

/-- A stop has got past the end of the subscription. What is in the channel stays there, and nothing
is acknowledged. -/
structure Shut (session after : Session) : Prop where
  subscribed : after.reader.subscribed = false
  channel : after.reader.channel = session.reader.channel.close
  turnedAway : ∀ sender message,
    ∃ error, after.deliver sender message = (.brokerError error, after)
  pending : after.reader.pending = []
  acked : after.broker.acked = session.broker.acked
  unsubscribed : after.broker.unsubscribed =
    session.broker.unsubscribed + if session.reader.subscribed then 1 else 0

theorem closed_refuses {session : Session} (closed : session.reader.channel.closed = true)
    (sender : Nat) (message : Delivery UInt64) :
    ∃ error, session.deliver sender message = (.brokerError error, session) := by
  by_cases feeds : Broker.feeds session.broker session.reader.port = true
  · exact ⟨.closed, by simp [Session.deliver, Channel.send, feeds, closed]⟩
  · exact ⟨MemoryBroker.noSubscription, by simp [Session.deliver, feeds]⟩

section stop
variable {opened session : Session} {come settled unsettled : List (Delivery UInt64)}
  (valid : Valid opened come settled unsettled session)
include valid

theorem stop_stopped : Stopped session.abandon (session.step .stop) :=
  stop_cases (abandon_preserves valid).alone rfl

theorem shut_nothing : (shut session.reader).pending = [] := by
  cases tracks : session.reader.tracks with
  | true => simp only [shut, tracks, if_true]
  | false =>
    rw [valid.sameTracks] at tracks
    simp [shut, valid.pending, valid.sameTracks, tracks]

theorem stop_refused (refused : Refused session) :
    (session.step .stop).1 =
      .sourceError (.broker (.failed .unsubscribe "mock unsubscribe failure")) ∧
    Untouched session (session.step .stop).2 := by
  have stopped := stop_stopped valid
  have fails : session.abandon.broker.fails .unsubscribe = true := refused.2
  generalize session.step .stop = result at stopped
  cases stopped with
  | kept subscribed => exact ⟨rfl, rfl, rfl, rfl, rfl, rfl⟩
  | undeleted can | closed can =>
    rw [can refused.1] at fails
    cases fails

theorem shut_after {broker : MemoryBroker} (acked : broker.acked = session.broker.acked)
    (unsubscribed : broker.unsubscribed = (ended session).unsubscribed) :
    Shut session { session.abandon with
      reader := shut session.abandon.reader
      broker := broker } where
  subscribed := rfl
  channel := rfl
  turnedAway := closed_refuses rfl
  pending := shut_nothing (abandon_preserves valid)
  acked := acked
  unsubscribed := by
    rw [unsubscribed, ended]
    cases session.reader.subscribed <;> rfl

/-- What comes after the end of the subscription: the consumer is deleted, and if that succeeds, the
connection is closed. -/
theorem stop_goes_on (goesOn : ¬ Refused session) :
    Shut session (session.step .stop).2 ∧
    (session.broker.fails .deleteConsumer = true →
      (session.step .stop).1 =
        .sourceError (.broker (.failed .deleteConsumer "mock delete failure")) ∧
      (session.step .stop).2.broker.deleted = session.broker.deleted ∧
      (session.step .stop).2.broker.closings = session.broker.closings) ∧
    (session.broker.fails .deleteConsumer = false →
      (session.step .stop).1 = .done ∧
      (session.step .stop).2.broker.deleted = session.broker.deleted ++
        [(session.reader.consumer.stream, session.reader.consumer.name)] ∧
      (session.step .stop).2.broker.closings = session.broker.closings + 1) := by
  have stopped := stop_stopped valid
  have same : (ended session.abandon).acked = session.broker.acked ∧
      (ended session.abandon).deleted = session.broker.deleted ∧
      (ended session.abandon).closings = session.broker.closings := by
    unfold ended
    split <;> exact ⟨rfl, rfl, rfl⟩
  generalize session.step .stop = result at stopped
  cases stopped with
  | kept subscribed fails => exact absurd ⟨subscribed, fails⟩ goesOn
  | undeleted can fails =>
    refine ⟨shut_after valid same.1 rfl, fun _ => ⟨rfl, same.2⟩, fun deletes => ?_⟩
    rw [show session.broker.fails .deleteConsumer = true from fails] at deletes
    cases deletes
  | closed can deletes =>
    refine ⟨shut_after valid same.1 rfl, fun fails => ?_, fun _ => ⟨rfl, ?_, ?_⟩⟩
    · rw [show session.broker.fails .deleteConsumer = false from deletes] at fails
      cases fails
    · exact congrArg (· ++ _) same.2.1
    · exact congrArg (· + 1) same.2.2

end stop

/-- Whether no stop of a run comes after one that has succeeded. -/
def Retried (session : Session) : List Act → Prop
  | [] => True
  | act :: rest =>
    (act = .stop → (session.step act).1 = .done → .stop ∉ rest) ∧ Retried (session.step act).2 rest

/-- How often each part of a teardown has been done at a broker. -/
structure Torn (origin : MemoryBroker) (consumer : Consumer) (ended deleted closed : Nat)
    (broker : MemoryBroker) : Prop where
  unsubscribed : broker.unsubscribed = origin.unsubscribed + ended
  deleted : broker.deleted =
    origin.deleted ++ List.replicate deleted (consumer.stream, consumer.name)
  closings : broker.closings = origin.closings + closed

/-- A session that `closed` stops have torn down from beginning to end. -/
structure Progressed (opened : Session) (closed : Nat) (session : Session) : Prop where
  torn : Torn opened.broker opened.reader.consumer
    (if session.reader.subscribed then 0 else 1) closed closed session.broker
  ended : 0 < closed → session.reader.subscribed = false

section run
variable {opened session : Session} {come settled unsettled : List (Delivery UInt64)}
  {closed : Nat}

private theorem followed_parts {result : Bench.Outcome × Session}
    (followed : Followed session result) :
    result.2.broker = session.broker ∧
      result.2.reader.subscribed = session.reader.subscribed := by
  cases followed <;> exact ⟨rfl, rfl⟩

/-- Nothing but a stop has a part in a teardown. -/
theorem other_parts (valid : Valid opened come settled unsettled session) {act : Act}
    (other : act ≠ .stop) :
    (session.step act).2.broker.deleted = session.broker.deleted ∧
      (session.step act).2.broker.closings = session.broker.closings ∧
      (session.step act).2.reader.subscribed = session.reader.subscribed := by
  have abandoned := abandon_preserves valid
  cases act with
  | deliver sender sequence timestamp payload =>
    rcases deliver_cases session sender (MemoryBroker.message sequence timestamp payload) with
      ⟨error, come⟩ | ⟨_, come⟩ | ⟨_, come⟩ <;> rw [Session.step, come] <;> exact ⟨rfl, rfl, rfl⟩
  | read cancelled =>
    obtain ⟨broker, subscribed⟩ :=
      followed_parts (read_cases cancelled abandoned.alone.channelLine)
    exact ⟨congrArg _ broker, congrArg _ broker, subscribed⟩
  | wake cancelled =>
    rw [Session.step]
    split
    next waiting =>
      obtain ⟨broker, subscribed⟩ :=
        followed_parts (wake_cases valid.alone cancelled waiting (valid.running waiting))
      exact ⟨congrArg _ broker, congrArg _ broker, subscribed⟩
    next => exact ⟨rfl, rfl, rfl⟩
  | hasNext =>
    by_cases stopped : session.reader.stopped = true <;>
      simp [Session.step, Reader.hasNext, stopped]
  | acknowledge token =>
    have answered := acknowledge_cases valid.alone token
    rw [Session.step]
    generalize session.acknowledge token = result at answered
    cases answered <;> exact ⟨rfl, rfl, rfl⟩
  | stop => exact absurd rfl other
  | withdraw | abandon | setFailing | setLatency => exact ⟨rfl, rfl, rfl⟩

/-- A stop adds one whole teardown if it succeeds, and none otherwise. -/
theorem stop_progresses (valid : Valid opened come settled unsettled session)
    (progressed : Progressed opened closed session) :
    ((session.step .stop).1 ≠ .done ∧ Progressed opened closed (session.step .stop).2) ∨
    ((session.step .stop).1 = .done ∧ Progressed opened (closed + 1) (session.step .stop).2) := by
  obtain ⟨⟨unsubscribed, deleted, closings⟩, ended⟩ := progressed
  by_cases refused : Refused session
  · obtain ⟨outcome, same⟩ := stop_refused valid refused
    refine .inl ⟨by simp [outcome], ⟨?_, ?_, ?_⟩, ?_⟩
    · rw [same.broker, same.subscribed, unsubscribed]
    · rw [same.broker, deleted]
    · rw [same.broker, closings]
    · rw [same.subscribed]
      exact ended
  · obtain ⟨shuts, fails, deletes⟩ := stop_goes_on valid refused
    have once : (session.step .stop).2.broker.unsubscribed =
        opened.broker.unsubscribed + if (session.step .stop).2.reader.subscribed then 0 else 1 := by
      rw [shuts.unsubscribed, shuts.subscribed, unsubscribed]
      cases session.reader.subscribed <;> rfl
    cases failing : session.broker.fails .deleteConsumer with
    | true =>
      obtain ⟨outcome, sameDeleted, sameClosings⟩ := fails failing
      refine .inl ⟨by simp [outcome], ⟨once, ?_, ?_⟩, fun _ => shuts.subscribed⟩
      · rw [sameDeleted, deleted]
      · rw [sameClosings, closings]
    | false =>
      obtain ⟨outcome, oneMore, closing⟩ := deletes failing
      refine .inr ⟨outcome, ⟨once, ?_, ?_⟩, fun _ => shuts.subscribed⟩
      · rw [oneMore, deleted, List.append_assoc, valid.consumer, List.replicate_succ']
      · rw [closing, closings, Nat.add_assoc]

theorem run_progresses (valid : Valid opened come settled unsettled session) {acts : List Act}
    (progressed : Progressed opened closed session) (once : closed ≤ 1)
    (ceased : 0 < closed → .stop ∉ acts) (retried : Retried session acts) :
    ∃ final ≤ 1, Progressed opened final (session.run acts) := by
  induction acts generalizing session come settled unsettled closed with
  | nil => exact ⟨closed, once, progressed⟩
  | cons act rest ih =>
    obtain ⟨_, _, stepped⟩ := step_preserves valid act
    by_cases stops : act = .stop
    · subst stops
      have first : closed = 0 := Nat.eq_zero_of_not_pos fun some => ceased some (.head _)
      subst first
      rcases stop_progresses valid progressed with ⟨_, kept⟩ | ⟨done, torn⟩
      · exact ih stepped kept once (fun some => absurd some (Nat.lt_irrefl 0)) retried.2
      · exact ih stepped torn (Nat.le_refl 1) (fun _ => retried.1 rfl done) retried.2
    · obtain ⟨deleted, closings, subscribed⟩ := other_parts valid stops
      refine ih stepped ⟨⟨?_, ?_, ?_⟩, ?_⟩ once
        (fun some member => ceased some (.tail _ member)) retried.2
      · exact stepped.unsubscribed.trans (by cases (session.step act).2.reader.subscribed <;> rfl)
      · rw [deleted, progressed.torn.deleted]
      · rw [closings, progressed.torn.closings]
      · rw [subscribed]
        exact progressed.ended

end run

theorem Retried.before {session : Session} {acts more : List Act}
    (retried : Retried session (acts ++ more)) : Retried session acts := by
  induction acts generalizing session with
  | nil => trivial
  | cons act rest ih =>
    exact ⟨fun stops done member => retried.1 stops done (List.mem_append_left more member),
      ih retried.2⟩

section attached
variable {port : Nat} {params : SourceParams} {origin broker : MemoryBroker}
  {reader : Reader UInt64}

/-- Attaching a reader tears nothing down. -/
theorem Torn.of_attached (attached : (Reader.attach port params).make origin = (.ok reader, broker))
    {ended deleted closed : Nat} {after : MemoryBroker}
    (torn : Torn broker reader.consumer ended deleted closed after) :
    Torn origin reader.consumer ended deleted closed after := by
  obtain ⟨config, configured, rfl, rfl⟩ := attach_memory attached
  exact ⟨torn.unsubscribed, torn.deleted, torn.closings⟩

theorem attached_progresses
    (attached : (Reader.attach port params).make origin = (.ok reader, broker)) {acts : List Act}
    (retried : Retried (Session.start reader broker) acts) :
    ∃ closed ≤ 1,
      Progressed (Session.start reader broker) closed ((Session.start reader broker).run acts) := by
  have unclosed : ¬ 0 < 0 := Nat.lt_irrefl 0
  have begun : Progressed (Session.start reader broker) 0 (Session.start reader broker) := by
    refine ⟨⟨?_, ?_, rfl⟩, fun closed => absurd closed unclosed⟩
    · obtain ⟨config, configured, rfl, rfl⟩ := attach_memory attached
      rfl
    · exact (List.append_nil _).symm
  exact run_progresses (start_valid attached) begun (Nat.zero_le 1)
    (fun closed => absurd closed unclosed) retried

end attached

/-- In every run of a reader, and for every stop that may be called in it. Where the subscription
cannot be ended, the stop says so and touches nothing. Otherwise it shuts the reader, and then
deletes the consumer, and only if that succeeds closes the connection; it succeeds if and only if
each of these does. Over a run in which no stop is called behind one that has succeeded, none of the
three takes effect twice, and none before the one it follows; a stop that finds nothing failing does
what is missing of them. -/
theorem torn_down_once {port : Nat} {params : SourceParams} {origin broker : MemoryBroker}
    {reader : Reader UInt64}
    (attached : (Reader.attach port params).make origin = (.ok reader, broker))
    (acts : List Act) :
    let opened := Session.start reader broker
    let session := opened.run acts
    let stop := session.step .stop
    (Refused session →
      stop.1 = .sourceError (.broker (.failed .unsubscribe "mock unsubscribe failure")) ∧
      Untouched session stop.2) ∧
    (¬ Refused session →
      Shut session stop.2 ∧
      (session.broker.fails .deleteConsumer = true →
        stop.1 = .sourceError (.broker (.failed .deleteConsumer "mock delete failure")) ∧
        stop.2.broker.deleted = session.broker.deleted ∧
        stop.2.broker.closings = session.broker.closings) ∧
      (session.broker.fails .deleteConsumer = false →
        stop.1 = .done ∧
        stop.2.broker.deleted = session.broker.deleted ++
          [(session.reader.consumer.stream, session.reader.consumer.name)] ∧
        stop.2.broker.closings = session.broker.closings + 1)) ∧
    (Retried opened acts →
      ∃ ended deleted closed, Torn origin reader.consumer ended deleted closed session.broker ∧
        closed ≤ deleted ∧ deleted ≤ ended ∧ ended ≤ 1) ∧
    (Retried opened (acts ++ [.stop]) →
      session.broker.fails .unsubscribe = false → session.broker.fails .deleteConsumer = false →
      stop.1 = .done ∧ Shut session stop.2 ∧ Torn origin reader.consumer 1 1 1 stop.2.broker) ∧
    ∀ call stage (reader : Reader UInt64) (broker : MemoryBroker),
      InTurn stage reader broker (reader.stepStop call stage broker) := by
  intro opened session stop
  obtain ⟨settled, unsettled, valid⟩ := attached_run attached acts
  refine ⟨stop_refused valid, stop_goes_on valid, fun retried => ?_,
    fun retried ends deletes => ?_, step_inTurn⟩
  · obtain ⟨closed, once, torn, ended⟩ := attached_progresses attached retried
    refine ⟨_, closed, closed, torn.of_attached attached, Nat.le_refl closed, ?_, ?_⟩
    · rcases Nat.eq_zero_or_pos closed with none | some
      · rw [none]
        exact Nat.zero_le _
      · rw [ended some]
        exact once
    · cases session.reader.subscribed <;> decide
  · have goesOn : ¬ Refused session := fun refused => by
      rw [refused.2] at ends
      cases ends
    obtain ⟨shuts, _, done⟩ := stop_goes_on valid goesOn
    obtain ⟨closed, _, progressed⟩ := attached_progresses attached retried.before
    obtain ⟨final, once, torn, _⟩ := attached_progresses attached retried
    rw [Session.run, List.foldl_append] at torn
    rcases stop_progresses valid progressed with ⟨fails, _⟩ | ⟨_, oneMore, _⟩
    · exact absurd (done deletes).1 fails
    · -- The run that ends with this stop counts at most one teardown, and the stop adds one.
      have same : closed + 1 = final :=
        Nat.add_left_cancel (oneMore.closings.symm.trans torn.closings)
      have first : closed = 0 := by omega
      rw [shuts.subscribed, first] at oneMore
      exact ⟨(done deletes).1, shuts, oneMore.of_attached attached⟩

/-- A deletion fails, and is made up for by a second stop, which ends no subscription any more. -/
def retry : List Act := [.deliver 1 7 .epoch [0x61], .setFailing .deleteConsumer true, .stop,
  .setFailing .deleteConsumer false]

/-- What `narrow` asks the broker for. -/
def narrowConsumer : Consumer :=
  ⟨"stream", "durable", "durable", "durable.stream", narrow.startPolicy .zero, .explicit, .instant,
    true, heartbeatInterval⟩

theorem torn_down_once_retry :
    ∃ reader broker, (Reader.attach 0 narrow).make MemoryBroker.fresh = (.ok reader, broker) ∧
      Retried (.start reader broker) (retry ++ [.stop]) ∧
      let session := (Session.start reader broker).run retry
      session.broker.fails .unsubscribe = false ∧ session.broker.fails .deleteConsumer = false ∧
      (session.step .stop).1 = .done ∧
      Torn .fresh reader.consumer 1 1 1 (session.step .stop).2.broker := by
  have attached : (Reader.attach 0 narrow).make MemoryBroker.fresh =
      (.ok (Reader.fresh 0 narrowConsumer narrow),
        { MemoryBroker.fresh with consumers := [narrowConsumer], live := some 0 }) := rfl
  have retried : Retried (.start (Reader.fresh 0 narrowConsumer narrow)
      { MemoryBroker.fresh with consumers := [narrowConsumer], live := some 0 })
      (retry ++ [.stop]) :=
    ⟨nofun, nofun, fun _ => nofun, nofun, fun _ _ => List.not_mem_nil, trivial⟩
  obtain ⟨_, _, _, completes, _⟩ := torn_down_once attached retry
  obtain ⟨done, _, torn⟩ := completes retried rfl rfl
  exact ⟨_, _, attached, retried, rfl, rfl, done, torn⟩

end StreamBridge.Proofs.Teardown
