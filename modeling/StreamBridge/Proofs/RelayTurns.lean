import StreamBridge.Relay.Records
import StreamBridge.Proofs.ReaderCalls

/-! What a turn of a record relay comes to. The relay is the only caller of its reader, so a turn that
reads is over with one look at the channel, and a turn that acknowledges settles the record that was
written last. -/

namespace StreamBridge.Proofs.RelayTurns
open ReaderSession ReaderCalls BrokerRequests

variable {β ρ : Type}

/-- A record relay over a broker in memory. -/
abbrev MemoryRelay := RecordRelay MemoryBroker UInt64

/-- What a relay's reader looks like between its turns. -/
structure Free (reader : Reader ρ) : Prop where
  channelLine : reader.channelLine = []
  gateLine : reader.gateLine = []
  running : reader.stopped = false

/-- What a read by the only caller of a reader can do. -/
inductive Looks (reader : Reader ρ) (cancelled fed : Bool) :
    Option (Except SourceError Record) × Reader ρ → Prop where
  | cancelled (seen : cancelled = true) :
      Looks reader cancelled fed (some (.error .cancelled), { reader with started := true })
  | waited (goesOn : cancelled = false) (empty : reader.channel.take = none)
      (connected : reader.hungUp fed = false) :
      Looks reader cancelled fed (none, { reader with started := true, channelLine := [] })
  | hungUp (goesOn : cancelled = false) (empty : reader.channel.take = none)
      (hungUp : reader.hungUp fed = true) :
      Looks reader cancelled fed
        (some (.error .stopped), { reader with started := true, channelLine := [] })
  | dropped (goesOn : cancelled = false) (message : Delivery ρ)
      (channel : Channel (Delivery ρ)) (error : BrokerError)
      (taken : reader.channel.take = some (message, channel))
      (unreadable : message.metadata = .error error) :
      Looks reader cancelled fed (some (.error (.broker error)),
        { reader with started := true, channelLine := [], channel := channel })
  | took (goesOn : cancelled = false) (message : Delivery ρ)
      (channel : Channel (Delivery ρ)) (record : Record)
      (taken : reader.channel.take = some (message, channel))
      (readable : reader.record message = .ok record) :
      Looks reader cancelled fed (some (.ok record), { reader with
        started := true
        channelLine := []
        channel := channel
        pending := reader.pending ++
          if reader.tracks then [⟨record.position, message⟩] else [] })

theorem read_cases {reader : Reader ρ} (free : Free reader) (cancelled fed : Bool) :
    Looks reader cancelled fed (reader.read cancelled fed) := by
  rw [Reader.read, readFor_advance, advance_entering reader cancelled fed free.channelLine,
    advance_listening _ cancelled fed 0 rfl, if_neg (Bool.eq_false_iff.mp free.running)]
  cases cancelled with
  | true => exact .cancelled rfl
  | false =>
    simp only [Bool.false_eq_true, if_false]
    cases taken : reader.channel.take with
    | none =>
      have same : Reader.hungUp { reader with started := true, channelLine := [0] } fed =
          reader.hungUp fed := rfl
      by_cases spent : reader.hungUp fed = true
      · simp only [same, if_pos spent]
        exact .hungUp rfl taken spent
      · simp only [same, if_neg spent]
        exact .waited rfl taken (Bool.eq_false_iff.mpr spent)
    | some first =>
      obtain ⟨message, channel⟩ := first
      cases known : message.metadata with
      | error error =>
        simp only [handOver, Reader.record, known]
        exact .dropped rfl message channel error taken known
      | ok metadata =>
        simp only [handOver, Reader.record, known, track_pending]
        exact .took rfl message channel _ taken (by simp only [Reader.record, known]; rfl)

section acknowledging
variable [Broker β ρ] {relay : RecordRelay β ρ}

theorem ackTurn_untracked (free : Free relay.reader) (token : Token)
    (untracked : relay.reader.tracks = false) :
    relay.ackTurn token = (true, { relay with phase := .reading }) := by
  rw [RecordRelay.ackTurn, acknowledge_alone token relay.reader relay.broker free.gateLine,
    if_neg (Bool.eq_false_iff.mp free.running), if_pos untracked]

/-- The broker is asked about the record that was written last, and agrees or ends the relay. -/
theorem ackTurn_asks (free : Free relay.reader) (tracks : relay.reader.tracks = true)
    {token : Token} {message : Delivery ρ} (pending : relay.reader.pending = [⟨token, message⟩]) :
    relay.ackTurn token =
      match (Broker.acknowledge message.receipt).make relay.broker with
      | (.error reason, broker) =>
        (true, { relay with broker := broker, phase := .ended (.error (.broker reason)) })
      | (.ok (), broker) =>
        (true, { relay with
          reader := { relay.reader with pending := [] }
          broker := broker
          phase := .reading }) := by
  rw [RecordRelay.ackTurn, acknowledge_alone token relay.reader relay.broker free.gateLine,
    if_neg (Bool.eq_false_iff.mp free.running), if_neg (by simp [tracks])]
  simp only [settleHead, pending, if_true, settle]
  rcases (Broker.acknowledge message.receipt).make relay.broker with ⟨_ | ⟨⟩, _⟩ <;> rfl

end acknowledging

theorem ackTurn_tracked {relay : MemoryRelay} (free : Free relay.reader)
    (tracks : relay.reader.tracks = true) {token : Token} {message : Delivery UInt64}
    (pending : relay.reader.pending = [⟨token, message⟩]) :
    relay.ackTurn token =
      if relay.broker.fails .acknowledge then
        (true, { relay with
          phase := .ended (.error (.broker (.failed .acknowledge "mock ack failure"))) })
      else
        (true, { relay with
          reader := { relay.reader with pending := [] }
          broker := { relay.broker with acked := relay.broker.acked ++ [message.receipt] }
          phase := .reading }) := by
  rw [ackTurn_asks free tracks pending, make_acknowledge]
  cases relay.broker.fails .acknowledge <;> rfl

end StreamBridge.Proofs.RelayTurns
