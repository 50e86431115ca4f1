import StreamBridge.Proofs.ChannelOrder
import StreamBridge.Proofs.LoopEnds

/-! The books of a record relay. What it has printed are the lines of the messages that its reader has
taken, in order; the broker has acknowledged those, but for the last one while that is written and
not settled. -/

namespace StreamBridge.Proofs.RelayHistory
open ChannelOrder ReaderCalls RelayTurns

/-- A message with the record that was printed for it. -/
abbrev Entry := Delivery UInt64 × Record

def sent? : Happening MemoryBroker UInt64 → Option (Delivery UInt64)
  | .deliver message => some message
  | _ => none

def sent (schedule : List (Happening MemoryBroker UInt64)) : List (Delivery UInt64) :=
  schedule.filterMap sent?

/-- The lines of the records that were printed, at the times that the clock showed. -/
def lines (clock : Clock) (printed : List Entry) : Bytes :=
  (printed.mapIdx fun index entry => entry.2.line (clock.shows index)).flatten

theorem lines_concat (clock : Clock) (printed : List Entry) (entry : Entry) :
    lines clock (printed ++ [entry]) =
      lines clock printed ++ entry.2.line (clock.shows printed.length) := by
  rw [lines, List.mapIdx_concat, List.flatten_concat]
  rfl

/-- What is pending, lost, printed and settled in each phase of a relay. A message is lost where it
cannot be read, which ends the relay. -/
inductive Stands (opened : Reader UInt64) (cancelled : Bool) :
    RecordPhase → List (Pending UInt64) → List (Delivery UInt64) → List Entry → List Entry →
      Prop where
  | reading (printed : List Entry) : Stands opened cancelled .reading [] [] printed printed
  | written (settled : List Entry) (message : Delivery UInt64) (record : Record) :
      Stands opened cancelled (.acknowledging record.position)
        (if opened.tracks then [⟨record.position, message⟩] else []) []
        (settled ++ [(message, record)]) settled
  | cancelled (printed : List Entry) (seen : cancelled = true) :
      Stands opened cancelled (.ended (.ok ())) [] [] printed printed
  | hungUp (printed : List Entry) :
      Stands opened cancelled (.ended (.error .stopped)) [] [] printed printed
  | unreadable (printed : List Entry) (message : Delivery UInt64) (reason : BrokerError)
      (known : message.metadata = .error reason) :
      Stands opened cancelled (.ended (.error (.broker reason))) [] [message] printed printed
  | refused (pending : List (Pending UInt64)) (settled : List Entry) (last : Entry)
      (tracks : opened.tracks = true) :
      Stands opened cancelled
        (.ended (.error (.broker (.failed .acknowledge "mock ack failure")))) pending []
        (settled ++ [last]) settled

/-- The books of a relay that began with the reader `opened`, after these messages were sent. -/
structure Books (opened : Reader UInt64) (origin : MemoryBroker) (clock : Clock)
    (come lost : List (Delivery UInt64)) (printed settled : List Entry) (relay : MemoryRelay) :
    Prop where
  free : Free relay.reader
  consumer : relay.reader.consumer = opened.consumer
  subject : relay.reader.subject = opened.subject
  accepts : relay.reader.channel.closed = false
  tight : Tight relay.reader.channel
  ordered : printed.map (·.1) ++ lost ++ contents relay.reader.channel = come
  records : ∀ entry ∈ printed, opened.record entry.1 = .ok entry.2
  output : relay.output = lines clock printed
  written : relay.written = printed.length
  acked : relay.broker.acked =
    origin.acked ++ if opened.tracks then settled.map (·.1.receipt) else []
  stands : Stands opened relay.cancelled relay.phase relay.reader.pending lost printed settled

section books
variable {opened : Reader UInt64} {origin : MemoryBroker} {clock : Clock}
  {come lost : List (Delivery UInt64)} {printed settled : List Entry} {relay : MemoryRelay}

theorem Books.sameRecord (books : Books opened origin clock come lost printed settled relay) :
    relay.reader.record = opened.record := by
  funext message
  simp only [Reader.record, Reader.position, books.consumer, books.subject]

theorem Books.sameTracks (books : Books opened origin clock come lost printed settled relay) :
    relay.reader.tracks = opened.tracks := by
  simp only [Reader.tracks, books.consumer]

theorem Books.atReading (books : Books opened origin clock come lost printed settled relay)
    (phase : relay.phase = .reading) :
    relay.reader.pending = [] ∧ lost = [] ∧ settled = printed := by
  have stands := books.stands
  rw [phase] at stands
  generalize relay.reader.pending = pending at stands
  cases stands
  exact ⟨rfl, rfl, rfl⟩

/-- A turn that reads prints one more line, or ends the relay, or waits. -/
theorem Books.read (books : Books opened origin clock come lost printed settled relay)
    (phase : relay.phase = .reading) :
    ∃ gone more, Books opened origin clock come gone more settled
      (relay.readTurn (clock.shows relay.written)).2 := by
  obtain ⟨idle, rfl, rfl⟩ := books.atReading phase
  have looked := read_cases books.free relay.cancelled
    (Broker.feeds relay.broker relay.reader.port)
  rw [RecordRelay.readTurn]
  generalize relay.reader.read relay.cancelled _ = result at looked ⊢
  cases looked with
  | cancelled seen =>
    refine ⟨[], settled, { books with
      free := ⟨books.free.channelLine, books.free.gateLine, books.free.running⟩
      stands := ?_ }⟩
    rw [idle]
    exact .cancelled settled seen
  | waited =>
    exact ⟨[], settled, { books with free := ⟨rfl, books.free.gateLine, books.free.running⟩ }⟩
  | hungUp =>
    refine ⟨[], settled, { books with
      free := ⟨rfl, books.free.gateLine, books.free.running⟩
      stands := ?_ }⟩
    rw [idle]
    exact .hungUp settled
  | dropped _ message channel reason taken unreadable =>
    obtain ⟨first, tight, closed⟩ := take_contents taken
    refine ⟨[message], settled, { books with
      free := ⟨rfl, books.free.gateLine, books.free.running⟩
      accepts := closed.trans books.accepts
      tight := tight books.tight
      ordered := ?_
      stands := ?_ }⟩
    · have ordered := books.ordered
      rw [first] at ordered
      simpa using ordered
    · rw [idle]
      exact .unreadable settled message reason unreadable
  | took _ message channel record taken readable =>
    obtain ⟨first, tight, closed⟩ := take_contents taken
    refine ⟨[], settled ++ [(message, record)], { books with
      free := ⟨rfl, books.free.gateLine, books.free.running⟩
      accepts := closed.trans books.accepts
      tight := tight books.tight
      ordered := ?_
      records := ?_
      output := ?_
      written := ?_
      stands := ?_ }⟩
    · have ordered := books.ordered
      rw [first] at ordered
      simpa using ordered
    · intro entry member
      rcases List.mem_append.mp member with member | member
      · exact books.records entry member
      · rw [List.mem_singleton.mp member, ← books.sameRecord]
        exact readable
    · rw [lines_concat, books.output, books.written]
    · rw [List.length_append, books.written]
      rfl
    · rw [idle, books.sameTracks, List.nil_append]
      exact .written settled message record

/-- A turn that acknowledges settles the message that was printed last, or ends the relay. -/
theorem Books.acknowledge (books : Books opened origin clock come lost printed settled relay)
    {token : Token} (phase : relay.phase = .acknowledging token) :
    ∃ more, Books opened origin clock come lost printed more (relay.ackTurn token).2 := by
  have stands := books.stands
  rw [phase] at stands
  generalize listed : relay.reader.pending = pending at stands
  cases stands with
  | written settled message record =>
    cases tracks : opened.tracks with
    | false =>
      rw [tracks] at listed
      rw [ackTurn_untracked books.free _ (books.sameTracks.trans tracks)]
      refine ⟨settled ++ [(message, record)], { books with acked := ?_, stands := ?_ }⟩
      · simpa [tracks] using books.acked
      · rw [listed]
        exact .reading (settled ++ [(message, record)])
    | true =>
      rw [tracks] at listed
      rw [ackTurn_tracked books.free (books.sameTracks.trans tracks) listed]
      split
      next => exact ⟨settled, { books with stands := .refused _ settled (message, record) tracks }⟩
      next =>
        refine ⟨settled ++ [(message, record)], { books with
          free := ⟨books.free.channelLine, books.free.gateLine, books.free.running⟩
          acked := ?_
          stands := .reading (settled ++ [(message, record)]) }⟩
        simp [books.acked, tracks]

theorem Books.turn (books : Books opened origin clock come lost printed settled relay) :
    ∃ gone first second, Books opened origin clock come gone first second (relay.turn clock).2 := by
  rw [RecordRelay.turn]
  split
  next phase =>
    obtain ⟨gone, more, read⟩ := books.read phase
    exact ⟨gone, more, settled, read⟩
  next token phase =>
    obtain ⟨more, acknowledged⟩ := books.acknowledge phase
    exact ⟨lost, printed, more, acknowledged⟩
  next => exact ⟨lost, printed, settled, books⟩

theorem Books.turnsFor (books : Books opened origin clock come lost printed settled relay)
    (count : Nat) :
    ∃ gone first second,
      Books opened origin clock come gone first second (relay.turnsFor clock count) := by
  induction count generalizing relay lost printed settled with
  | zero => exact ⟨lost, printed, settled, books⟩
  | succ count ih =>
    obtain ⟨gone, first, second, turned⟩ := books.turn
    rw [RecordRelay.turnsFor]
    generalize relay.turn clock = result at turned ⊢
    obtain ⟨done, after⟩ := result
    cases done with
    | true => exact ih turned
    | false => exact ⟨gone, first, second, turned⟩

private theorem Books.quiet (books : Books opened origin clock come lost printed settled relay) :
    Books opened origin clock (come ++ (none : Option (Delivery UInt64)).toList) lost printed
      settled relay := by
  rw [Option.toList_none, List.append_nil]
  exact books

/-- A cancellation that is not seen yet changes nothing but what may come of it. -/
theorem Stands.cancel {cancelled : Bool} {phase : RecordPhase} {pending : List (Pending UInt64)}
    (stands : Stands opened cancelled phase pending lost printed settled) :
    Stands opened true phase pending lost printed settled := by
  cases stands with
  | reading => exact .reading _
  | written => exact .written _ _ _
  | cancelled => exact .cancelled _ rfl
  | hungUp => exact .hungUp _
  | unreadable _ message reason known => exact .unreadable _ message reason known
  | refused _ _ _ tracks => exact .refused _ _ _ tracks

/-- Whatever happens around a relay keeps its books, if the broker's own changes leave alone what it
has acknowledged. -/
theorem Books.after (books : Books opened origin clock come lost printed settled relay)
    {happening : Happening MemoryBroker UInt64}
    (kept : ∀ change, happening = .change change → ∀ broker, (change broker).acked = broker.acked) :
    ∃ gone first second, Books opened origin clock (come ++ (sent? happening).toList) gone first
      second (relay.after clock happening) := by
  cases happening with
  | deliver message =>
    obtain ⟨last, accepts⟩ := send_contents books.tight books.accepts 0 message
    refine ⟨lost, printed, settled, { books with
      free := ⟨books.free.channelLine, books.free.gateLine, books.free.running⟩
      accepts := accepts
      tight := send_tight books.tight 0 message
      ordered := ?_ }⟩
    change _ ++ contents (relay.reader.channel.send 0 message).2 = come ++ [message]
    rw [last, ← List.append_assoc, books.ordered]
  | change change =>
    have acked := (kept change rfl relay.broker).trans books.acked
    exact ⟨lost, printed, settled, Books.quiet { books with acked := acked }⟩
  | cancel =>
    exact ⟨lost, printed, settled, Books.quiet { books with stands := books.stands.cancel }⟩
  | turn =>
    obtain ⟨gone, first, second, turned⟩ := books.turn
    exact ⟨gone, first, second, turned.quiet⟩
  | turns =>
    obtain ⟨gone, first, second, turned⟩ := books.turnsFor (2 * relay.unread + 2)
    exact ⟨gone, first, second, turned.quiet⟩
  | input | inputEnds => exact ⟨lost, printed, settled, books.quiet⟩

theorem Books.run (books : Books opened origin clock come lost printed settled relay)
    (schedule : List (Happening MemoryBroker UInt64))
    (kept : ∀ change, .change change ∈ schedule → ∀ broker, (change broker).acked = broker.acked) :
    ∃ seen gone first second, Books opened origin clock seen gone first second
        (relay.run clock schedule) ∧
      seen <+: come ++ sent schedule ∧
      ((relay.run clock schedule).hasEnded = false → seen = come ++ sent schedule) := by
  induction schedule generalizing relay come lost printed settled with
  | nil =>
    rw [sent, List.filterMap_nil, List.append_nil]
    exact ⟨come, lost, printed, settled, books, List.prefix_refl come, fun _ => rfl⟩
  | cons happening rest ih =>
    cases ended : relay.hasEnded with
    | true =>
      -- A relay that has ended leaves the rest of its schedule alone.
      rw [LoopEnds.run_ended ended]
      refine ⟨come, lost, printed, settled, books, List.prefix_append come _, fun goesOn => ?_⟩
      rw [ended] at goesOn
      cases goesOn
    | false =>
      rw [LoopEnds.run_working ended]
      obtain ⟨_, _, _, stepped⟩ := books.after fun change same => kept change (same ▸ .head rest)
      have all : come ++ sent (happening :: rest) =
          come ++ (sent? happening).toList ++ sent rest := by
        rw [sent, List.filterMap_cons]
        cases sent? happening <;> simp [sent]
      rw [all]
      exact ih stepped fun change member => kept change (.tail happening member)

theorem Books.fresh (port : Nat) (consumer : Consumer) (params : SourceParams)
    (broker : MemoryBroker) (clock : Clock) :
    Books (Reader.fresh port consumer params) broker clock [] [] [] []
      (.start (Reader.fresh port consumer params) broker) where
  free := ⟨rfl, rfl, rfl⟩
  consumer := rfl
  subject := rfl
  accepts := rfl
  tight := fresh_tight _
  ordered := rfl
  records := fun _ => nofun
  output := rfl
  written := rfl
  acked := by simp [RecordRelay.start]
  stands := .reading []

end books
end StreamBridge.Proofs.RelayHistory
