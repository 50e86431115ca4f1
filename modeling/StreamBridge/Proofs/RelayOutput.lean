import StreamBridge.Proofs.Base64Text
import StreamBridge.Proofs.RecordLine
import StreamBridge.Proofs.RelayHistory
import StreamBridge.Proofs.SessionConservation
import StreamBridge.Proofs.SharedReader

/-! What a record relay leaves behind, wherever it is in its work. Its output is a line for each
record, which any reader of JSON and of Base64 understands, and the broker has acknowledged what is
written, or all of it but the last record. -/

namespace StreamBridge.Proofs.RelayOutput
open ChannelOrder RelayTurns RelayHistory
open SharedReader (tracking oneRoom seventh)

/-- What there is to be had from the line of a message: its bytes, and the token of its record. -/
structure Legible (opened : Reader UInt64) (now : Timestamp) (entry : Entry) : Prop where
  record : opened.record entry.1 = .ok entry.2
  unbroken : ∃ body, entry.2.line now = body ++ [Ascii.lineFeed] ∧ Ascii.lineFeed ∉ body
  object : ∃ payload position,
    Json.readAll Json.Value.read (entry.2.line now) =
      .ok (.object [("created_at", .text (entry.2.createdAt.resolve now).text),
        ("payload", .text payload), ("position", .text position)]) ∧
    Base64Text.decode (Utf8.encode payload) = some entry.1.payload ∧
    Token.ofText position = entry.2.position

/-- How far the acknowledgements have got in each phase. A relay stays behind its output only where
the broker refuses to acknowledge the last record. -/
def Abreast (cancelled : Bool) (lost : List (Delivery UInt64)) (printed settled : List Entry) :
    RecordPhase → Prop
  | .reading => settled = printed
  | .acknowledging token =>
    ∃ message record, printed = settled ++ [(message, record)] ∧ record.position = token
  | .ended (.ok ()) => settled = printed ∧ cancelled = true
  | .ended (.error error) =>
    (settled = printed ∧ (error = .stopped ∨
      ∃ message ∈ lost, ∃ reason, message.metadata = .error reason ∧ error = .broker reason)) ∨
    (lost = [] ∧ ∃ last, printed = settled ++ [last] ∧
      error = .broker (.failed .acknowledge "mock ack failure"))

/-- The account of a relay that began with the reader `opened` and was sent these messages. -/
structure Account (opened : Reader UInt64) (origin : MemoryBroker) (clock : Clock)
    (come lost : List (Delivery UInt64)) (printed settled : List Entry) (relay : MemoryRelay) :
    Prop where
  output : relay.output = lines clock printed
  legible : ∀ index entry, printed[index]? = some entry →
    Legible opened (clock.shows index) entry
  /-- Messages are printed in the order in which they were sent, and those in the channel come after
  them. -/
  ordered : printed.map (·.1) ++ lost ++ contents relay.reader.channel <+: come
  complete : relay.hasEnded = false →
    printed.map (·.1) ++ contents relay.reader.channel = come
  /-- A message is lost only where it cannot be read, which is what the relay ends with. -/
  unreadable : ∀ message ∈ lost, ∃ reason,
    message.metadata = .error reason ∧ relay.phase = .ended (.error (.broker reason))
  acked : relay.broker.acked = origin.acked ++ settled.map (·.1.receipt)
  untracked : opened.tracks = false → settled = []
  behind : opened.tracks = true → settled <+: printed ∧ printed.length ≤ settled.length + 1
  abreast : opened.tracks = true → Abreast relay.cancelled lost printed settled relay.phase
  /-- The turn that ends a relay writes and acknowledges nothing. -/
  leaves : relay.hasEnded = false → (relay.turn clock).2.hasEnded = true →
    (relay.turn clock).2.output = relay.output ∧
      (relay.turn clock).2.broker.acked = relay.broker.acked
  /-- Where a cancellation is seen, whatever is in the channel stays there. -/
  cancellation : relay.phase = .reading → relay.cancelled = true →
    (relay.turn clock).2.phase = .ended (.ok ()) ∧
      (relay.turn clock).2.reader.channel = relay.reader.channel

theorem record_token {reader : Reader UInt64} {message : Delivery UInt64} {record : Record}
    (readable : reader.record message = .ok record) :
    Token.ofText record.position.display = record.position := by
  unfold Reader.record at readable
  split at readable
  · cases readable
  · cases readable
    exact PositionTokens.ofText_display _

theorem legible_of_record {opened : Reader UInt64} {now : Timestamp} {entry : Entry}
    (readable : opened.record entry.1 = .ok entry.2) : Legible opened now entry := by
  obtain ⟨payload, written, read⟩ := RecordLine.line_read now entry.2
  refine ⟨readable, RecordLine.line_unbroken now entry.2, payload, _, read, ?_,
    record_token readable⟩
  rw [written, SessionConservation.record_payload readable]
  exact Base64Text.decode_encode entry.1.payload

section stands
variable {opened : Reader UInt64} {cancelled : Bool} {phase : RecordPhase}
  {pending : List (Pending UInt64)} {lost : List (Delivery UInt64)} {printed settled : List Entry}
  (stands : Stands opened cancelled phase pending lost printed settled)
include stands

theorem stands_abreast : Abreast cancelled lost printed settled phase := by
  cases stands with
  | reading => rfl
  | written _ message record => exact ⟨message, record, rfl, rfl⟩
  | cancelled _ seen => exact ⟨rfl, seen⟩
  | hungUp => exact .inl ⟨rfl, .inl rfl⟩
  | unreadable _ message reason known =>
    exact .inl ⟨rfl, .inr ⟨message, List.mem_singleton_self message, reason, known, rfl⟩⟩
  | refused _ _ last => exact .inr ⟨rfl, last, rfl, rfl⟩

theorem stands_behind : settled <+: printed ∧ printed.length ≤ settled.length + 1 := by
  cases stands with
  | written | refused =>
    refine ⟨List.prefix_append _ _, ?_⟩
    rw [List.length_append]
    exact Nat.le_refl _
  | reading | cancelled | hungUp | unreadable => exact ⟨List.prefix_refl _, Nat.le_succ _⟩

theorem lost_unreadable :
    ∀ message ∈ lost, ∃ reason,
      message.metadata = .error reason ∧ phase = .ended (.error (.broker reason)) := by
  cases stands with
  | unreadable _ message reason known =>
    intro other member
    rw [List.mem_singleton.mp member]
    exact ⟨reason, known, rfl⟩
  | reading | written | cancelled | hungUp | refused => exact fun _ => nofun

end stands

section books
variable {opened : Reader UInt64} {origin : MemoryBroker} {clock : Clock}
  {come lost : List (Delivery UInt64)} {printed settled : List Entry} {relay : MemoryRelay}
  (books : Books opened origin clock come lost printed settled relay)
include books

theorem nothing_lost_while_on (goesOn : relay.hasEnded = false) : lost = [] := by
  refine List.eq_nil_iff_forall_not_mem.mpr fun message member => ?_
  obtain ⟨reason, -, phase⟩ := lost_unreadable books.stands message member
  rw [RecordRelay.hasEnded, phase] at goesOn
  cases goesOn

theorem readTurn_ends (phase : relay.phase = .reading) {now : Timestamp}
    (ends : (relay.readTurn now).2.hasEnded = true) :
    (relay.readTurn now).2.output = relay.output ∧
      (relay.readTurn now).2.broker.acked = relay.broker.acked := by
  have looked := read_cases books.free relay.cancelled
    (Broker.feeds relay.broker relay.reader.port)
  rw [RecordRelay.readTurn] at ends ⊢
  generalize relay.reader.read relay.cancelled _ = result at looked ends ⊢
  cases looked with
  | cancelled | hungUp | dropped => exact ⟨rfl, rfl⟩
  | waited =>
    rw [RecordRelay.hasEnded, phase] at ends
    cases ends
  | took => cases ends

theorem ackTurn_ends {token : Token} (phase : relay.phase = .acknowledging token)
    (ends : (relay.ackTurn token).2.hasEnded = true) :
    (relay.ackTurn token).2.output = relay.output ∧
      (relay.ackTurn token).2.broker.acked = relay.broker.acked := by
  have stands := books.stands
  rw [phase] at stands
  generalize listed : relay.reader.pending = pending at stands
  cases stands with
  | written settled message record =>
    cases tracks : opened.tracks with
    | false =>
      rw [ackTurn_untracked books.free _ (books.sameTracks.trans tracks)]
      exact ⟨rfl, rfl⟩
    | true =>
      rw [tracks] at listed
      rw [ackTurn_tracked books.free (books.sameTracks.trans tracks) listed] at ends ⊢
      split at ends
      next refuses =>
        rw [if_pos refuses]
        exact ⟨rfl, rfl⟩
      next => cases ends

theorem turn_ends (goesOn : relay.hasEnded = false) (ends : (relay.turn clock).2.hasEnded = true) :
    (relay.turn clock).2.output = relay.output ∧
      (relay.turn clock).2.broker.acked = relay.broker.acked := by
  cases phase : relay.phase with
  | reading =>
    rw [RecordRelay.turn, phase] at ends ⊢
    exact readTurn_ends books phase ends
  | acknowledging token =>
    rw [RecordRelay.turn, phase] at ends ⊢
    exact ackTurn_ends books phase ends
  | ended result =>
    rw [RecordRelay.hasEnded, phase] at goesOn
    cases goesOn

theorem turn_cancelled (phase : relay.phase = .reading) (cancelled : relay.cancelled = true) :
    (relay.turn clock).2.phase = .ended (.ok ()) ∧
      (relay.turn clock).2.reader.channel = relay.reader.channel := by
  have looked := read_cases books.free relay.cancelled
    (Broker.feeds relay.broker relay.reader.port)
  have read : relay.turn clock = relay.readTurn (clock.shows relay.written) := by
    rw [RecordRelay.turn, phase]
    rfl
  rw [read, RecordRelay.readTurn]
  generalize relay.reader.read relay.cancelled _ = result at looked ⊢
  cases looked with
  | cancelled => exact ⟨rfl, rfl⟩
  | waited goesOn | hungUp goesOn | dropped goesOn | took goesOn =>
    rw [cancelled] at goesOn
    cases goesOn

/-- The books of a relay are an account of it. Where nothing is tracked, nothing is settled. -/
theorem account {all : List (Delivery UInt64)} (early : come <+: all)
    (full : relay.hasEnded = false → come = all) :
    ∃ shown, Account opened origin clock all lost printed shown relay := by
  refine ⟨if opened.tracks then settled else [], ?_⟩
  exact {
    output := books.output
    legible := fun index entry there =>
      legible_of_record (books.records entry (List.mem_of_getElem? there))
    ordered := books.ordered ▸ early
    complete := fun goesOn => by
      have ordered := books.ordered.trans (full goesOn)
      rwa [nothing_lost_while_on books goesOn, List.append_nil] at ordered
    unreadable := lost_unreadable books.stands
    acked := by
      rw [books.acked]
      split <;> rfl
    untracked := fun untracked => by rw [untracked, if_neg Bool.false_ne_true]
    behind := fun tracks => by
      rw [tracks, if_pos rfl]
      exact stands_behind books.stands
    abreast := fun tracks => by
      rw [tracks, if_pos rfl]
      exact stands_abreast books.stands
    leaves := turn_ends books
    cancellation := turn_cancelled books }

end books

/-- Whatever is sent to a relay, whenever its broker refuses and whenever it is cancelled: a record is
acknowledged only when its line is written, and before the next line is. Each line can be read by
itself, and no line is left out but that of a message that could not be read. -/
theorem prints_before_acknowledging (port : Nat) (consumer : Consumer) (params : SourceParams)
    (broker : MemoryBroker) (clock : Clock) (schedule : List (Happening MemoryBroker UInt64))
    (kept : ∀ change, .change change ∈ schedule → ∀ broker, (change broker).acked = broker.acked) :
    ∃ lost printed settled,
      Account (Reader.fresh port consumer params) broker clock (sent schedule) lost printed settled
        ((RecordRelay.start (Reader.fresh port consumer params) broker).run clock schedule) := by
  have begun := Books.fresh port consumer params broker clock
  obtain ⟨seen, lost, printed, settled, books, early, full⟩ := begun.run schedule kept
  obtain ⟨shown, account⟩ := account books early full
  exact ⟨lost, printed, shown, account⟩

/-- Two messages, of which the broker will not acknowledge the second. -/
def refusal : List (Happening MemoryBroker UInt64) :=
  [.deliver seventh, .deliver (MemoryBroker.message 8 .epoch [Ascii.lineFeed]), .turn, .turn,
    .change (MemoryBroker.setFailing .acknowledge true), .turn, .turn]

/-- A clock that shows a second more once a record has been read. -/
def ticking : Clock where
  shows
    | 0 => .epoch
    | _ => ⟨1, 0, by decide⟩

theorem prints_before_acknowledging_refused :
    (∀ change, .change change ∈ refusal → ∀ broker, (change broker).acked = broker.acked) ∧
    ∃ relay lost printed settled,
      (RecordRelay.start (Reader.fresh 1 tracking oneRoom) MemoryBroker.fresh).run ticking
        refusal = relay ∧
      Account (Reader.fresh 1 tracking oneRoom) MemoryBroker.fresh ticking (sent refusal) lost
        printed settled relay ∧
      relay.written = 2 ∧ relay.broker.acked = [7] ∧ relay.hasEnded = true := by
  have kept : ∀ change, .change change ∈ refusal →
      ∀ broker, (change broker).acked = broker.acked := by
    intro change member
    have only : change = MemoryBroker.setFailing .acknowledge true := by
      simpa [refusal] using member
    exact fun _ => only ▸ rfl
  obtain ⟨lost, printed, settled, account⟩ := prints_before_acknowledging 1 tracking oneRoom
    MemoryBroker.fresh ticking refusal kept
  exact ⟨kept, _, lost, printed, settled, rfl, account, rfl, rfl, rfl⟩

end StreamBridge.Proofs.RelayOutput
