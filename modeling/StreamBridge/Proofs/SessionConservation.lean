import StreamBridge.Proofs.SessionHistory

/-! No run of a reader loses a message, hands one out twice, or changes their order. Each message is
in the channel, pending or acknowledged, and these follow one another in the order of delivery. -/

namespace StreamBridge.Proofs.SessionConservation
open ReaderSession ReaderCalls SessionSteps SessionHistory

section attached
variable {port : Nat} {params : SourceParams} {origin broker : MemoryBroker}
  {reader : Reader UInt64}
  (attached : (Reader.attach port params).make origin = (.ok reader, broker))
include attached

theorem attached_tracks : reader.tracks = (params.ackPolicy != .none) := by
  obtain ⟨config, configured, rfl, rfl⟩ := attach_memory attached
  obtain ⟨position, decoded, rfl⟩ := consumerConfig_ok configured
  rfl

theorem attached_capacity : reader.channel.capacity = max params.bufferSize 1 := by
  obtain ⟨config, configured, rfl, rfl⟩ := attach_memory attached
  rfl

theorem attached_broker :
    broker.acked = origin.acked ∧ broker.unsubscribed = origin.unsubscribed := by
  obtain ⟨config, configured, rfl, rfl⟩ := attach_memory attached
  exact ⟨rfl, rfl⟩

theorem attached_run (acts : List Act) :
    ∃ settled unsettled, Valid (.start reader broker) (deliveries acts) settled unsettled
      ((Session.start reader broker).run acts) :=
  run_preserves (start_valid attached) acts

theorem attached_stopped (acts : List Act) :
    ((Session.start reader broker).run acts).reader.stopped = true ↔ .stop ∈ acts := by
  have fresh : reader.stopped = false := by
    obtain ⟨config, configured, rfl, rfl⟩ := attach_memory attached
    rfl
  rw [run_stopped (start_valid attached)]
  simp [Session.start, fresh]

end attached

theorem record_payload {reader : Reader UInt64} {message : Delivery UInt64} {record : Record}
    (readable : reader.record message = .ok record) : record.payload = ⟨none, message.payload⟩ := by
  unfold Reader.record at readable
  split at readable
  · cases readable
  · cases readable
    rfl

/-- What a record says is known from its message, so the records of a list of messages say it in the
same order. -/
theorem records_kept {α : Type} {reader : Reader UInt64} {records : List Record}
    {messages : List (Delivery UInt64)} (same : records.map .ok = messages.map reader.record)
    {said : Record → α} {known : Delivery UInt64 → α}
    (each : ∀ message record, reader.record message = .ok record → said record = known message) :
    records.map said = messages.map known := by
  induction records generalizing messages with
  | nil =>
    cases messages with
    | nil => rfl
    | cons message messages => cases same
  | cons record records ih =>
    cases messages with
    | nil => cases same
    | cons message messages =>
      rw [List.map_cons, List.map_cons, List.cons.injEq] at same
      rw [List.map_cons, List.map_cons, ih same.2, each message record same.1.symm]

section valid
variable {opened session : Session} {come settled unsettled : List (Delivery UInt64)}
  (valid : Valid opened come settled unsettled session)
include valid

theorem accepted_ordered : session.accepted.Sublist come :=
  (List.sublist_append_left _ _).trans valid.ordered

theorem subscribed_iff :
    session.broker.unsubscribed = opened.broker.unsubscribed ↔
      session.reader.subscribed = true := by
  rw [valid.unsubscribed]
  cases session.reader.subscribed <;> simp

/-- A reader that tracks and is still subscribed has everything pending that is not settled. -/
theorem unsettled_pending (tracks : opened.reader.tracks = true)
    (subscribed : session.reader.subscribed = true) :
    unsettled = session.reader.pending.map (·.delivery) := by
  rw [valid.pending, tracks, subscribed, Bool.and_self, if_pos rfl, List.map_map]
  exact (List.map_id' unsettled).symm

theorem untracked_agrees (untracked : opened.reader.tracks = false)
    (running : session.reader.stopped = false) (token : Token) :
    (session.step (.acknowledge token)).1 = .done := by
  have answered := acknowledge_cases valid.alone token
  rw [Session.step]
  generalize session.acknowledge token = result at answered
  rw [← valid.sameTracks] at untracked
  cases answered <;> simp_all

end valid

/-- Whatever a caller does with a reader, and whatever comes and fails: the messages that the
channel accepted, which came in this order, are those handed out and then those in the channel, and
the channel stays within its bound. A reader that tracks has acknowledged the first of those handed
out; the others are pending until a stop ends the subscription, and forgotten then. A reader that
does not track has nothing pending and nothing acknowledged, and agrees to everything until it is
stopped. -/
theorem nothing_lost {port : Nat} {params : SourceParams} {origin broker : MemoryBroker}
    {reader : Reader UInt64}
    (attached : (Reader.attach port params).make origin = (.ok reader, broker))
    (acts : List Act) :
    let session := (Session.start reader broker).run acts
    ∃ taken settled : List (Delivery UInt64),
      session.accepted.Sublist (deliveries acts) ∧
      session.accepted = taken ++ session.reader.channel.buffer ∧
      session.reader.channel.buffer.length ≤ max params.bufferSize 1 ∧
      session.handedOut.map .ok = taken.map session.reader.record ∧
      session.handedOut.map (·.payload) = taken.map (fun message => ⟨none, message.payload⟩) ∧
      session.broker.acked = origin.acked ++ settled.map (·.receipt) ∧
      (params.ackPolicy ≠ .none →
        (session.broker.unsubscribed = origin.unsubscribed →
          taken = settled ++ session.reader.pending.map (·.delivery)) ∧
        (session.broker.unsubscribed ≠ origin.unsubscribed →
          session.reader.pending = [] ∧ settled <+: taken)) ∧
      (params.ackPolicy = .none →
        settled = [] ∧ session.reader.pending = [] ∧
        (.stop ∉ acts → ∀ token, (session.step (.acknowledge token)).1 = .done)) := by
  intro session
  obtain ⟨settled, unsettled, valid⟩ := attached_run attached acts
  obtain ⟨acked, unsubscribed⟩ := attached_broker attached
  have tracks := attached_tracks attached
  refine ⟨settled ++ unsettled, settled, accepted_ordered valid, valid.accepted,
    ?_, ?_, ?_, ?_, ?_, ?_⟩
  · rw [← attached_capacity attached]
    exact valid.capacity ▸ valid.room
  · rw [valid.records, valid.sameRecord]
  · exact records_kept valid.records fun _ _ => record_payload
  · rw [← acked]
    exact valid.acked
  · intro policy
    have tracked : reader.tracks = true := by simpa [tracks] using policy
    rw [← unsubscribed]
    constructor
    · intro none
      rw [unsettled_pending valid tracked ((subscribed_iff valid).mp none)]
    · intro some
      have ended : session.reader.subscribed = false :=
        Bool.eq_false_iff.mpr fun subscribed => some ((subscribed_iff valid).mpr subscribed)
      refine ⟨?_, List.prefix_append settled unsettled⟩
      rw [valid.pending, ended, Bool.and_false]
      rfl
  · intro policy
    have untracked : reader.tracks = false := by simp [tracks, policy]
    refine ⟨valid.untracked untracked, ?_, ?_⟩
    · rw [valid.pending]
      simp [Session.start, untracked]
    · intro never token
      have running : session.reader.stopped = false :=
        Bool.eq_false_iff.mpr fun stopped => never ((attached_stopped attached acts).mp stopped)
      exact untracked_agrees valid untracked running token

/-- A source with room for one message. -/
def narrow : SourceParams := ⟨1, "durable", "stream", "subject", .empty, .all, .explicit⟩

/-- Three messages, of which two are read and the first is acknowledged. -/
def partly : List Act :=
  [.deliver 1 7 .epoch [0x61], .deliver 2 8 .epoch [0x62], .read false, .read false,
    .deliver 3 9 .epoch [0x63],
    .acknowledge (Position.encode ⟨"durable", "stream", "subject", .epoch, 8⟩)]

theorem nothing_lost_narrow :
    ∃ reader broker, (Reader.attach 0 narrow).make MemoryBroker.fresh = (.ok reader, broker) ∧
      let session := (Session.start reader broker).run partly
      ∃ taken settled,
        session.accepted = taken ++ session.reader.channel.buffer ∧
        taken = settled ++ session.reader.pending.map (·.delivery) ∧
        settled.map (·.receipt) = [7] ∧
        session.reader.pending.map (·.delivery.receipt) = [8] ∧
        session.reader.channel.buffer.map (·.receipt) = [9] := by
  have attached : (Reader.attach 0 narrow).make MemoryBroker.fresh =
      (.ok (Reader.fresh 0 ⟨"stream", "durable", _⟩ narrow), _) := rfl
  obtain ⟨taken, settled, _, kept, _, _, _, acked, tracked, _⟩ := nothing_lost attached partly
  exact ⟨_, _, attached, taken, settled, kept, (tracked (by decide)).1 rfl, acked.symm, rfl, rfl⟩

end StreamBridge.Proofs.SessionConservation
