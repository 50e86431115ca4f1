import StreamBridge.Relay.Lines
import StreamBridge.Proofs.InputLines
import StreamBridge.Proofs.RelayTurns

/-! What ends a loop, whatever the broker does: a turn of a relay ends it for one of a few reasons,
and for nothing else. A relay that has ended sees nothing of the rest of its schedule. -/

namespace StreamBridge.Proofs.LoopEnds
open BrokerRequests ReaderCalls RelayTurns InputLines

variable {β ρ : Type}

/-- Whether a relay takes a turn. -/
def takesTurn : Happening β ρ → Bool
  | .turn | .turns => true
  | .deliver _ | .input _ | .inputEnds | .change _ | .cancel => false

variable [Broker β ρ]

/-! ### Records -/

section records
variable {clock : Clock} {relay : RecordRelay β ρ}

theorem turn_ended (ended : relay.hasEnded = true) : relay.turn clock = (false, relay) := by
  rw [RecordRelay.hasEnded] at ended
  rw [RecordRelay.turn]
  cases phase : relay.phase with
  | ended => rfl
  | reading | acknowledging =>
    rw [phase] at ended
    cases ended

theorem turnsFor_ended (ended : relay.hasEnded = true) (count : Nat) :
    relay.turnsFor clock count = relay := by
  cases count with
  | zero => rfl
  | succ count => rw [RecordRelay.turnsFor, turn_ended ended]

theorem run_ended (ended : relay.hasEnded = true) (schedule : List (Happening β ρ)) :
    relay.run clock schedule = relay := by
  induction schedule with
  | nil => rfl
  | cons happening rest ih =>
    rw [RecordRelay.run, List.foldl_cons, RecordRelay.step, if_pos ended]
    exact ih

theorem run_working (goesOn : relay.hasEnded = false) (happening : Happening β ρ)
    (rest : List (Happening β ρ)) :
    relay.run clock (happening :: rest) = (relay.after clock happening).run clock rest := by
  rw [RecordRelay.run, List.foldl_cons, RecordRelay.step, if_neg (Bool.eq_false_iff.mp goesOn)]
  rfl

/-- A relay between its turns: what is pending is the record that is written and not acknowledged,
if its reader tracks records. -/
structure Fit (relay : RecordRelay β ρ) : Prop where
  free : Free relay.reader
  idle : relay.phase = .reading → relay.reader.pending = []
  tracked : ∀ token, relay.phase = .acknowledging token → relay.reader.tracks = true →
    ∃ message, relay.reader.pending = [⟨token, message⟩]
  untracked : ∀ token, relay.phase = .acknowledging token → relay.reader.tracks = false →
    relay.reader.pending = []

/-- Why the next turn of a relay of records ends it. A turn that reads lets the broker fill the
channel first. -/
inductive RecordsEnd (relay : RecordRelay β ρ) : Except SourceError Unit → Prop where
  | cancelled (reads : relay.phase = .reading) (cancelled : relay.cancelled = true) :
      RecordsEnd relay (.ok ())
  | hungUp (reads : relay.phase = .reading) (goesOn : relay.cancelled = false)
      (empty : relay.refill.reader.channel.take = none)
      (hungUp : relay.refill.reader.hungUp
        (Broker.feeds relay.refill.broker relay.reader.port) = true) :
      RecordsEnd relay (.error .stopped)
  | unreadable (reads : relay.phase = .reading) (goesOn : relay.cancelled = false)
      (message : Delivery ρ) (channel : Channel (Delivery ρ)) (reason : BrokerError)
      (taken : relay.refill.reader.channel.take = some (message, channel))
      (unreadable : message.metadata = .error reason) :
      RecordsEnd relay (.error (.broker reason))
  | refused (token : Token) (message : Delivery ρ) (reason : BrokerError)
      (written : relay.phase = .acknowledging token) (tracks : relay.reader.tracks = true)
      (pending : relay.reader.pending = [⟨token, message⟩])
      (refuses : ((Broker.acknowledge message.receipt).make relay.broker).1 = .error reason) :
      RecordsEnd relay (.error (.broker reason))

/-- What a turn that reads comes to. -/
theorem turn_reads (clock : Clock) (fit : Fit relay) (reads : relay.phase = .reading) :
    ∃ result, Looks relay.refill.reader relay.cancelled
        (Broker.feeds relay.refill.broker relay.reader.port) result ∧
      relay.turn clock = match result with
        | (none, reader) => (false, { relay.refill with reader := reader })
        | (some (.error error), reader) =>
          (true, { relay.refill with reader := reader, phase := RecordRelay.phaseAfter error })
        | (some (.ok record), reader) =>
          (true, { relay.refill with
            reader := reader
            output := relay.output ++ record.line (clock.shows relay.written)
            written := relay.written + 1
            phase := .acknowledging record.position }) := by
  have free : Free relay.refill.reader := { fit.free with channelLine := fit.free.channelLine }
  refine ⟨_, read_cases free relay.cancelled _, ?_⟩
  rw [RecordRelay.turn, reads]
  rfl

theorem turn_acknowledges {token : Token} (written : relay.phase = .acknowledging token) :
    relay.turn clock = relay.ackTurn token := by
  rw [RecordRelay.turn, written]

theorem turn_fit (clock : Clock) (fit : Fit relay) : Fit (relay.turn clock).2 := by
  cases phase : relay.phase with
  | ended result =>
    rw [turn_ended (by rw [RecordRelay.hasEnded, phase])]
    exact fit
  | reading =>
    obtain ⟨result, looked, same⟩ := turn_reads clock fit phase
    rw [same]
    cases looked with
    | cancelled =>
      exact ⟨{ fit.free with channelLine := fit.free.channelLine }, nofun, nofun, nofun⟩
    | waited =>
      exact ⟨⟨rfl, fit.free.gateLine, fit.free.running⟩, fit.idle, fit.tracked, fit.untracked⟩
    | hungUp | dropped =>
      exact ⟨⟨rfl, fit.free.gateLine, fit.free.running⟩, nofun, nofun, nofun⟩
    | took _ message _ record =>
      refine ⟨⟨rfl, fit.free.gateLine, fit.free.running⟩, nofun, fun token written tracks => ?_,
        fun token written untracked => ?_⟩
      · cases written
        exact ⟨message, congrArg₂ (· ++ ·) (fit.idle phase) (if_pos tracks)⟩
      · exact congrArg₂ (· ++ ·) (fit.idle phase) (if_neg (Bool.eq_false_iff.mp untracked))
  | acknowledging token =>
    rw [turn_acknowledges phase]
    cases tracks : relay.reader.tracks with
    | false =>
      rw [ackTurn_untracked fit.free token tracks]
      exact ⟨fit.free, fun _ => fit.untracked token phase tracks, nofun, nofun⟩
    | true =>
      obtain ⟨message, pending⟩ := fit.tracked token phase tracks
      rw [ackTurn_asks fit.free tracks pending]
      rcases (Broker.acknowledge message.receipt).make relay.broker with ⟨reason | ⟨⟩, broker⟩
      · exact ⟨fit.free, nofun, nofun, nofun⟩
      · exact ⟨⟨fit.free.channelLine, fit.free.gateLine, fit.free.running⟩, fun _ => rfl, nofun,
          nofun⟩

theorem RecordsEnd.ends {result : Except SourceError Unit} (cause : RecordsEnd relay result)
    (fit : Fit relay) (clock : Clock) : (relay.turn clock).2.phase = .ended result := by
  cases cause with
  | cancelled reads cancelled =>
    obtain ⟨_, looked, same⟩ := turn_reads clock fit reads
    rw [same]
    cases looked with
    | cancelled => rfl
    | waited goesOn | hungUp goesOn | dropped goesOn | took goesOn =>
      cases cancelled.symm.trans goesOn
  | hungUp reads goesOn empty hungUp =>
    obtain ⟨_, looked, same⟩ := turn_reads clock fit reads
    rw [same]
    cases looked with
    | hungUp => rfl
    | cancelled seen => cases goesOn.symm.trans seen
    | waited _ _ connected => cases hungUp.symm.trans connected
    | dropped _ _ _ _ taken | took _ _ _ _ taken => cases empty.symm.trans taken
  | unreadable reads goesOn message channel reason taken unreadable =>
    obtain ⟨_, looked, same⟩ := turn_reads clock fit reads
    rw [same]
    cases looked with
    | dropped _ _ _ _ taken' unreadable' =>
      cases taken.symm.trans taken'
      cases unreadable.symm.trans unreadable'
      rfl
    | cancelled seen => cases goesOn.symm.trans seen
    | waited _ empty | hungUp _ empty => cases empty.symm.trans taken
    | took _ _ _ _ taken' readable =>
      cases taken.symm.trans taken'
      rw [Reader.record, unreadable] at readable
      cases readable
  | refused token message reason written tracks pending refuses =>
    simp only [turn_acknowledges written, ackTurn_asks fit.free tracks pending]
    rcases made : (Broker.acknowledge message.receipt).make relay.broker with ⟨_ | ⟨⟩, broker⟩
    · rw [made] at refuses
      cases refuses
      rfl
    · rw [made] at refuses
      cases refuses

/-- The next turn of a relay ends it for one of these reasons, and for no other. -/
theorem turn_ends_iff (fit : Fit relay) (goesOn : relay.hasEnded = false)
    (result : Except SourceError Unit) :
    (relay.turn clock).2.phase = .ended result ↔ RecordsEnd relay result := by
  refine ⟨fun ends => ?_, fun cause => cause.ends fit clock⟩
  cases phase : relay.phase with
  | ended =>
    rw [RecordRelay.hasEnded, phase] at goesOn
    cases goesOn
  | reading =>
    obtain ⟨_, looked, same⟩ := turn_reads clock fit phase
    rw [same] at ends
    cases looked with
    | cancelled seen =>
      cases ends
      exact .cancelled phase seen
    | waited => cases phase.symm.trans ends
    | hungUp goesOn empty hungUp =>
      cases ends
      exact .hungUp phase goesOn empty hungUp
    | dropped goesOn message channel reason taken unreadable =>
      cases ends
      exact .unreadable phase goesOn message channel reason taken unreadable
    | took => cases ends
  | acknowledging token =>
    rw [turn_acknowledges phase] at ends
    cases tracks : relay.reader.tracks with
    | false =>
      rw [ackTurn_untracked fit.free token tracks] at ends
      cases ends
    | true =>
      obtain ⟨message, pending⟩ := fit.tracked token phase tracks
      rw [ackTurn_asks fit.free tracks pending] at ends
      rcases made : (Broker.acknowledge message.receipt).make relay.broker with
        ⟨reason | ⟨⟩, broker⟩
      · rw [made] at ends
        cases ends
        exact .refused token message reason phase tracks pending (by rw [made])
      · rw [made] at ends
        cases ends

theorem RecordsEnd.goesOn {result : Except SourceError Unit} (cause : RecordsEnd relay result) :
    relay.hasEnded = false := by
  rw [RecordRelay.hasEnded]
  cases cause with
  | cancelled phase | hungUp phase | unreadable phase | refused _ _ _ phase => rw [phase]

theorem turnsFor_fit (clock : Clock) (fit : Fit relay) (count : Nat) :
    Fit (relay.turnsFor clock count) := by
  induction count generalizing relay with
  | zero => exact fit
  | succ count ih =>
    have turned := turn_fit clock fit
    rw [RecordRelay.turnsFor]
    generalize relay.turn clock = result at turned ⊢
    obtain ⟨_ | _, after⟩ := result
    · exact turned
    · exact ih turned

theorem after_fit (clock : Clock) (fit : Fit relay) (happening : Happening β ρ) :
    Fit (relay.after clock happening) := by
  cases happening with
  | deliver =>
    exact ⟨{ fit.free with channelLine := fit.free.channelLine }, fit.idle, fit.tracked,
      fit.untracked⟩
  | change | cancel => exact ⟨fit.free, fit.idle, fit.tracked, fit.untracked⟩
  | turn => exact turn_fit clock fit
  | turns => exact turnsFor_fit clock fit _
  | input | inputEnds => exact fit

theorem run_fit (clock : Clock) (fit : Fit relay) (schedule : List (Happening β ρ)) :
    Fit (relay.run clock schedule) := by
  induction schedule generalizing relay with
  | nil => exact fit
  | cons happening rest ih =>
    refine ih ?_
    rw [RecordRelay.step]
    split
    · exact fit
    · exact after_fit clock fit happening

/-- Taking more than one turn comes to the same, where the first ends the relay. -/
theorem turnsFor_ends {result : Except SourceError Unit}
    (ends : (relay.turn clock).2.phase = .ended result) {count : Nat} (some : 0 < count) :
    (relay.turnsFor clock count).phase = .ended result := by
  cases count with
  | zero => cases some
  | succ count =>
    rw [RecordRelay.turnsFor]
    generalize relay.turn clock = turned at ends ⊢
    obtain ⟨_ | _, after⟩ := turned
    · exact ends
    · have ended : after.hasEnded = true := by rw [RecordRelay.hasEnded, ends]
      exact (congrArg _ (turnsFor_ended ended count)).trans ends

theorem RecordsEnd.after {result : Except SourceError Unit} (cause : RecordsEnd relay result)
    (fit : Fit relay) (clock : Clock) {happening : Happening β ρ}
    (turns : takesTurn happening = true) :
    (relay.after clock happening).phase = .ended result := by
  cases happening with
  | turn => exact cause.ends fit clock
  | turns => exact turnsFor_ends (cause.ends fit clock) (Nat.succ_pos _)
  | deliver | input | inputEnds | change | cancel => cases turns

/-- What ends a turn ends the loop, with the same result. -/
theorem RecordsEnd.run {result : Except SourceError Unit} {before later : List (Happening β ρ)}
    {happening : Happening β ρ} (fit : Fit relay) (turns : takesTurn happening = true)
    (cause : RecordsEnd (relay.run clock before) result) :
    (relay.run clock (before ++ happening :: later)).phase = .ended result := by
  have ends := cause.after (run_fit clock fit before) clock turns
  have whole : relay.run clock (before ++ happening :: later) =
      (relay.run clock before).run clock (happening :: later) := List.foldl_append
  rw [whole, run_working cause.goesOn, run_ended (by rw [RecordRelay.hasEnded, ends])]
  exact ends

/-- How many turns a relay that is cancelled takes at most. -/
def turnsLeft : RecordPhase → Nat
  | .ended _ => 0
  | .reading => 1
  | .acknowledging _ => 2

theorem turnsLeft_le (phase : RecordPhase) : turnsLeft phase ≤ 2 := by
  cases phase <;> simp [turnsLeft]

theorem turn_cancelled (clock : Clock) (fit : Fit relay) (goesOn : relay.hasEnded = false)
    (cancelled : relay.cancelled = true) :
    (relay.turn clock).2.cancelled = true ∧
      turnsLeft (relay.turn clock).2.phase < turnsLeft relay.phase := by
  cases phase : relay.phase with
  | ended =>
    rw [RecordRelay.hasEnded, phase] at goesOn
    cases goesOn
  | reading =>
    obtain ⟨_, looked, same⟩ := turn_reads clock fit phase
    rw [same]
    cases looked with
    | cancelled => exact ⟨cancelled, Nat.zero_lt_one⟩
    | waited goesOn | hungUp goesOn | dropped goesOn | took goesOn =>
      cases cancelled.symm.trans goesOn
  | acknowledging token =>
    rw [turn_acknowledges phase]
    cases tracks : relay.reader.tracks with
    | false =>
      rw [ackTurn_untracked fit.free token tracks]
      exact ⟨cancelled, Nat.one_lt_two⟩
    | true =>
      obtain ⟨message, pending⟩ := fit.tracked token phase tracks
      rw [ackTurn_asks fit.free tracks pending]
      rcases (Broker.acknowledge message.receipt).make relay.broker with ⟨reason | ⟨⟩, broker⟩
      · exact ⟨cancelled, Nat.zero_lt_two⟩
      · exact ⟨cancelled, Nat.one_lt_two⟩

theorem turnsFor_cancelled (clock : Clock) (fit : Fit relay) (goesOn : relay.hasEnded = false)
    (cancelled : relay.cancelled = true) {count : Nat} (some : 0 < count) :
    (relay.turnsFor clock count).cancelled = true ∧
      turnsLeft (relay.turnsFor clock count).phase < turnsLeft relay.phase := by
  induction count generalizing relay with
  | zero => cases some
  | succ count ih =>
    have first := turn_cancelled clock fit goesOn cancelled
    have turned := turn_fit clock fit
    rw [RecordRelay.turnsFor]
    generalize relay.turn clock = result at first turned ⊢
    obtain ⟨_ | _, after⟩ := result
    · exact first
    · cases ended : after.hasEnded with
      | true =>
        simp only [turnsFor_ended ended]
        exact first
      | false =>
        cases count with
        | zero => exact first
        | succ count =>
          obtain ⟨stays, later⟩ := ih turned ended first.left (Nat.succ_pos _)
          exact ⟨stays, later.trans first.right⟩

theorem after_cancelled (clock : Clock) (fit : Fit relay) (goesOn : relay.hasEnded = false)
    (cancelled : relay.cancelled = true) (happening : Happening β ρ) :
    (relay.after clock happening).cancelled = true := by
  cases happening with
  | turn => exact (turn_cancelled clock fit goesOn cancelled).left
  | turns => exact (turnsFor_cancelled clock fit goesOn cancelled (Nat.succ_pos _)).left
  | cancel => rfl
  | deliver | input | inputEnds | change => exact cancelled

theorem run_cancelled (fit : Fit relay) (cancelled : relay.cancelled = true)
    {schedule : List (Happening β ρ)}
    (enough : turnsLeft relay.phase ≤ schedule.countP takesTurn) :
    (relay.run clock schedule).hasEnded = true := by
  induction schedule generalizing relay with
  | nil =>
    rw [RecordRelay.run, List.foldl_nil, RecordRelay.hasEnded]
    cases phase : relay.phase with
    | ended => rfl
    | reading | acknowledging =>
      rw [phase] at enough
      cases enough
  | cons happening rest ih =>
    cases ended : relay.hasEnded with
    | true => rw [run_ended ended, ended]
    | false =>
      rw [run_working ended]
      refine ih (after_fit clock fit happening)
        (after_cancelled clock fit ended cancelled happening) ?_
      rw [List.countP_cons] at enough
      cases happening with
      | turn =>
        have less := (turn_cancelled clock fit ended cancelled).right
        exact Nat.le_of_lt_succ (Nat.lt_of_lt_of_le less enough)
      | turns =>
        have less := (turnsFor_cancelled clock fit ended cancelled
          (Nat.succ_pos (2 * relay.unread + 1))).right
        exact Nat.le_of_lt_succ (Nat.lt_of_lt_of_le less enough)
      | deliver | input | inputEnds | change | cancel => exact enough

/-- Two turns after a cancellation, whatever else happens, the loop has ended. -/
theorem cancelled_run_ends (fit : Fit relay) {before later : List (Happening β ρ)}
    (cancels : .cancel ∈ before) (enough : 2 ≤ later.countP takesTurn) :
    (relay.run clock (before ++ later)).hasEnded = true := by
  obtain ⟨first, rest, rfl⟩ := List.append_of_mem cancels
  rw [List.append_assoc, List.cons_append, RecordRelay.run, List.foldl_append]
  have begun := run_fit clock fit first
  change ((relay.run clock first).run clock (.cancel :: (rest ++ later))).hasEnded = true
  generalize relay.run clock first = relay at begun
  cases ended : relay.hasEnded with
  | true => rw [run_ended ended, ended]
  | false =>
    rw [run_working ended]
    refine run_cancelled (after_fit clock begun .cancel) rfl ?_
    rw [List.countP_append]
    exact Nat.le_trans (turnsLeft_le _) (Nat.le_trans enough (Nat.le_add_left _ _))

end records

/-! ### Lines -/

section lines
variable {relay : LineRelay β}

theorem lineTurn_ended (ended : relay.hasEnded = true) : relay.turn = (false, relay) := by
  rw [LineRelay.turn, if_pos ended]

theorem lineTurn_cancelled (goesOn : relay.hasEnded = false) (cancelled : relay.cancelled = true) :
    relay.turn = (true, relay.finish (.ok ())) := by
  rw [LineRelay.turn, if_neg (Bool.eq_false_iff.mp goesOn), if_pos cancelled]

/-- A turn of a relay that goes on depends on what is next in its input. -/
theorem lineTurn_next (goesOn : relay.hasEnded = false) (uncancelled : relay.cancelled = false) :
    relay.turn = match relay.input.next with
      | .waiting => (false, relay)
      | .atEnd => (true, relay.finish (.ok ()))
      | .line line rest => (true, LineRelay.publish line { relay with input := rest }) :=
  (if_neg (Bool.eq_false_iff.mp goesOn)).trans (if_neg (Bool.eq_false_iff.mp uncancelled))

theorem lineTurnsFor_ended (ended : relay.hasEnded = true) (count : Nat) :
    relay.turnsFor count = relay := by
  cases count with
  | zero => rfl
  | succ count => rw [LineRelay.turnsFor, lineTurn_ended ended]

theorem lineRun_ended (ended : relay.hasEnded = true) (schedule : List (Happening β ρ)) :
    relay.run schedule = relay := by
  induction schedule with
  | nil => rfl
  | cons happening rest ih =>
    rw [LineRelay.run, List.foldl_cons, LineRelay.step, if_pos ended]
    exact ih

theorem lineRun_working (goesOn : relay.hasEnded = false) (happening : Happening β ρ)
    (rest : List (Happening β ρ)) :
    relay.run (happening :: rest) = (relay.after happening).run rest := by
  rw [LineRelay.run, List.foldl_cons, LineRelay.step, if_neg (Bool.eq_false_iff.mp goesOn)]
  rfl

/-- Why the next turn of a relay of lines ends it. -/
inductive LinesEnd (relay : LineRelay β) : Except LineError Unit → Prop where
  | cancelled (cancelled : relay.cancelled = true) : LinesEnd relay (.ok ())
  | spent (goesOn : relay.cancelled = false) (ended : relay.input.ended = true)
      (spent : relay.input.unread = []) : LinesEnd relay (.ok ())
  | malformed (goesOn : relay.cancelled = false) (line : Bytes) (rest : Input)
      (fault : Utf8.Fault) (next : relay.input.next = .line line rest)
      (noText : Utf8.decode line = .error fault) :
      LinesEnd relay (.error (.malformed line fault))
  | batched (goesOn : relay.cancelled = false) (line : Bytes) (rest : Input) (text : String)
      (next : relay.input.next = .line line rest) (reads : Utf8.decode line = .ok text)
      (many : 1 < relay.writer.batchSize) :
      LinesEnd relay (.error (.write (.batched relay.writer.batchSize)))
  | refused (goesOn : relay.cancelled = false) (line : Bytes) (rest : Input) (text : String)
      (reason : BrokerError) (next : relay.input.next = .line line rest)
      (reads : Utf8.decode line = .ok text) (single : relay.writer.batchSize ≤ 1)
      (refuses : ((Broker.publish relay.writer.subject line relay.writer.options).make
        relay.broker).1 = .error reason) :
      LinesEnd relay (.error (.write (.publish reason)))

theorem write_answer (writer : Writer) (line : Bytes) (broker : β) :
    ((writer.write (.withPayload line)).make broker).1 =
      if 1 < writer.batchSize then .error (.batched writer.batchSize)
      else ((Broker.publish writer.subject line writer.options).make broker).1.mapError
        .publish := by
  unfold Writer.write
  split <;> rfl

theorem publish_result (line : Bytes) (relay : LineRelay β) :
    (relay.publish line).result =
      match Utf8.decode line with
      | .error fault => some (.error (.malformed line fault))
      | .ok _ =>
        match ((relay.writer.write (.withPayload line)).make relay.broker).1 with
        | .error reason => some (.error (.write reason))
        | .ok () => relay.result := by
  rw [LineRelay.publish]
  cases Utf8.decode line with
  | error => rfl
  | ok => rcases (relay.writer.write (.withPayload line)).make relay.broker with ⟨_ | ⟨⟩, _⟩ <;> rfl

theorem lineTurn_line (goesOn : relay.hasEnded = false) (uncancelled : relay.cancelled = false)
    {line : Bytes} {rest : Input} (next : relay.input.next = .line line rest) :
    relay.turn = (true, LineRelay.publish line { relay with input := rest }) := by
  rw [lineTurn_next goesOn uncancelled, next]

theorem LinesEnd.ends {result : Except LineError Unit} (cause : LinesEnd relay result)
    (goesOn : relay.hasEnded = false) : relay.turn.2.result = some result := by
  cases cause with
  | cancelled cancelled =>
    rw [lineTurn_cancelled goesOn cancelled]
    rfl
  | spent uncancelled ended spent =>
    have atEnd : relay.input.next = .atEnd := by
      rw [Input.next, spent]
      simp [ended]
    rw [lineTurn_next goesOn uncancelled, atEnd]
    rfl
  | malformed uncancelled line rest fault next noText =>
    rw [lineTurn_line goesOn uncancelled next, publish_result, noText]
  | batched uncancelled line rest text next reads many =>
    rw [lineTurn_line goesOn uncancelled next, publish_result, reads]
    simp only [write_answer, if_pos many]
  | refused uncancelled line rest text reason next reads single refuses =>
    rw [lineTurn_line goesOn uncancelled next, publish_result, reads]
    simp only [write_answer, if_neg (Nat.not_lt_of_le single), refuses]
    rfl

/-- The next turn of a relay ends it for one of these reasons, and for no other. -/
theorem lineTurn_ends_iff (goesOn : relay.hasEnded = false) (result : Except LineError Unit) :
    relay.turn.2.result = some result ↔ LinesEnd relay result := by
  refine ⟨fun ends => ?_, fun cause => cause.ends goesOn⟩
  have works : relay.result = none := by
    rw [LineRelay.hasEnded] at goesOn
    exact Option.isSome_eq_false_iff.mp goesOn |> Option.isNone_iff_eq_none.mp
  cases cancelled : relay.cancelled with
  | true =>
    rw [lineTurn_cancelled goesOn cancelled] at ends
    cases ends
    exact .cancelled cancelled
  | false =>
    have reads := next_reads relay.input
    cases next : relay.input.next with
    | waiting =>
      rw [lineTurn_next goesOn cancelled, next] at ends
      cases works.symm.trans ends
    | atEnd =>
      rw [lineTurn_next goesOn cancelled, next] at ends
      cases ends
      rw [next] at reads
      cases reads with
      | atEnd ended spent => exact .spent cancelled ended spent
    | line line rest =>
      rw [lineTurn_line goesOn cancelled next, publish_result] at ends
      cases decoded : Utf8.decode line with
      | error fault =>
        rw [decoded] at ends
        cases ends
        exact .malformed cancelled line rest fault next decoded
      | ok text =>
        simp only [decoded, write_answer] at ends
        by_cases many : 1 < relay.writer.batchSize
        · simp only [if_pos many] at ends
          cases ends
          exact .batched cancelled line rest text next decoded many
        · simp only [if_neg many] at ends
          cases answer : ((Broker.publish relay.writer.subject line relay.writer.options).make
              relay.broker).1 with
          | ok =>
            rw [answer] at ends
            cases works.symm.trans ends
          | error reason =>
            rw [answer] at ends
            cases ends
            exact .refused cancelled line rest text reason next decoded
              (Nat.le_of_not_lt many) answer

theorem hasEnded_of_result {result : Except LineError Unit} (ends : relay.result = some result) :
    relay.hasEnded = true := by rw [LineRelay.hasEnded, ends]; rfl

theorem LinesEnd.after {result : Except LineError Unit} (cause : LinesEnd relay result)
    (goesOn : relay.hasEnded = false) {happening : Happening β ρ}
    (turns : takesTurn happening = true) : (relay.after happening).result = some result := by
  have ends := cause.ends goesOn
  cases happening with
  | turn => exact ends
  | turns =>
    rw [LineRelay.after, LineRelay.turns, LineRelay.turnsFor]
    generalize relay.turn = turned at ends ⊢
    obtain ⟨_ | _, after⟩ := turned
    · exact ends
    · exact (congrArg _ (lineTurnsFor_ended (hasEnded_of_result ends) _)).trans ends
  | deliver | input | inputEnds | change | cancel => cases turns

/-- What ends a turn ends the loop, with the same result. -/
theorem LinesEnd.run {result : Except LineError Unit} {before later : List (Happening β ρ)}
    {happening : Happening β ρ} (goesOn : (relay.run before).hasEnded = false)
    (turns : takesTurn happening = true) (cause : LinesEnd (relay.run before) result) :
    (relay.run (before ++ happening :: later)).result = some result := by
  have ends := cause.after goesOn turns
  have whole : relay.run (before ++ happening :: later) =
      (relay.run before).run (happening :: later) := List.foldl_append
  rw [whole, lineRun_working goesOn, lineRun_ended (hasEnded_of_result ends)]
  exact ends

theorem lineRun_cancelled (cancelled : relay.cancelled = true) {schedule : List (Happening β ρ)}
    (some : ∃ happening ∈ schedule, takesTurn happening = true) :
    (relay.run schedule).hasEnded = true := by
  induction schedule generalizing relay with
  | nil =>
    obtain ⟨_, member, _⟩ := some
    cases member
  | cons happening rest ih =>
    cases ended : relay.hasEnded with
    | true => rw [lineRun_ended ended, ended]
    | false =>
      rw [lineRun_working ended]
      cases turns : takesTurn happening with
      | true =>
        have ends := (LinesEnd.cancelled cancelled).after ended turns
        rw [lineRun_ended (hasEnded_of_result ends), hasEnded_of_result ends]
      | false =>
        have later : ∃ happening ∈ rest, takesTurn happening = true := by
          simpa [turns] using some
        cases happening with
        | turn | turns => cases turns
        | cancel => exact ih rfl later
        | deliver | input | inputEnds | change => exact ih cancelled later

/-- A run goes through what happens somewhere in its schedule. -/
theorem lineRun_past {happening : Happening β ρ} {before : List (Happening β ρ)}
    (member : happening ∈ before) (relay : LineRelay β) (later : List (Happening β ρ)) :
    ∃ (middle : LineRelay β) (rest : List (Happening β ρ)),
      relay.run (before ++ later) = (middle.step happening).run (rest ++ later) := by
  obtain ⟨first, rest, rfl⟩ := List.append_of_mem member
  refine ⟨relay.run first, rest, ?_⟩
  rw [List.append_assoc, List.cons_append]
  exact List.foldl_append

/-- The turn after a cancellation, whatever else happens, the loop has ended. -/
theorem cancelled_lineRun_ends {before later : List (Happening β ρ)} (cancels : .cancel ∈ before)
    (some : ∃ happening ∈ later, takesTurn happening = true) :
    (relay.run (before ++ later)).hasEnded = true := by
  obtain ⟨middle, rest, same⟩ := lineRun_past cancels relay later
  rw [same, LineRelay.step]
  split
  next ended => rw [lineRun_ended ended, ended]
  next =>
    obtain ⟨happening, member, turns⟩ := some
    exact lineRun_cancelled rfl ⟨happening, List.mem_append_right rest member, turns⟩

theorem publish_input (line : Bytes) (relay : LineRelay β) :
    (relay.publish line).input = relay.input := by
  rw [LineRelay.publish]
  cases Utf8.decode line with
  | error => rfl
  | ok => rcases (relay.writer.write (.withPayload line)).make relay.broker with ⟨_ | ⟨⟩, _⟩ <;> rfl

/-- A turn leaves the end of the input, and takes a line off it unless it ends the relay or has to
wait. -/
theorem lineTurn_input (relay : LineRelay β) :
    relay.turn.2.input.ended = relay.input.ended ∧
      (relay.input.ended = true → relay.turn.2.hasEnded = true ∨
        relay.turn.1 = true ∧ relay.turn.2.input.unread.length < relay.input.unread.length) := by
  cases ended : relay.hasEnded with
  | true =>
    rw [lineTurn_ended ended]
    exact ⟨rfl, fun _ => .inl ended⟩
  | false =>
    cases cancelled : relay.cancelled with
    | true =>
      rw [lineTurn_cancelled ended cancelled]
      exact ⟨rfl, fun _ => .inl rfl⟩
    | false =>
      have reads := next_reads relay.input
      cases next : relay.input.next with
      | waiting =>
        rw [next] at reads
        rw [lineTurn_next ended cancelled, next]
        cases reads with
        | waiting goesOn => exact ⟨rfl, fun isEnded => nomatch isEnded.symm.trans goesOn⟩
      | atEnd =>
        rw [lineTurn_next ended cancelled, next]
        exact ⟨rfl, fun _ => .inl rfl⟩
      | line line rest =>
        rw [next] at reads
        rw [lineTurn_line ended cancelled next, publish_input]
        cases reads with
        | line _ _ same shorter => exact ⟨same, fun _ => .inr ⟨rfl, shorter⟩⟩

/-- Once the input has ended, it is used up line by line, and then the relay ends. -/
theorem lineTurnsFor_ends {count : Nat} (ended : relay.input.ended = true)
    (enough : relay.input.unread.length < count) : (relay.turnsFor count).hasEnded = true := by
  induction count generalizing relay with
  | zero => exact absurd enough (Nat.not_lt_zero _)
  | succ count ih =>
    obtain ⟨same, ends⟩ := lineTurn_input relay
    rw [LineRelay.turnsFor]
    generalize relay.turn = turned at same ends ⊢
    rcases ends ended with ends | ⟨moved, shorter⟩
    · obtain ⟨_ | _, after⟩ := turned
      · exact ends
      · exact (congrArg _ (lineTurnsFor_ended ends count)).trans ends
    · obtain ⟨_, after⟩ := turned
      cases moved
      exact ih (same.trans ended) (by simp only at shorter; omega)

theorem lineRun_spent (ended : relay.input.ended = true) {schedule : List (Happening β ρ)}
    (turns : .turns ∈ schedule) : (relay.run schedule).hasEnded = true := by
  induction schedule generalizing relay with
  | nil => cases turns
  | cons happening rest ih =>
    cases done : relay.hasEnded with
    | true => rw [lineRun_ended done, done]
    | false =>
      rw [lineRun_working done]
      have later (other : happening ≠ .turns) : .turns ∈ rest :=
        (List.mem_cons.mp turns).resolve_left (Ne.symm other)
      cases happening with
      | turns =>
        have ends : (relay.after .turns).hasEnded = true :=
          lineTurnsFor_ends ended (Nat.lt_succ_self _)
        rw [lineRun_ended ends, ends]
      | turn => exact ih ((lineTurn_input relay).left.trans ended) (later nofun)
      | inputEnds => exact ih rfl (later nofun)
      | deliver | input | change | cancel => exact ih ended (later nofun)

/-- The loop ends once the input has ended and the relay then takes all the turns it can. -/
theorem spent_lineRun_ends (relay : LineRelay β) {schedule : List (Happening β ρ)}
    (whole : [.inputEnds, .turns].Sublist schedule) : (relay.run schedule).hasEnded = true := by
  obtain ⟨before, later, rfl, ends, turns⟩ := List.cons_sublist_iff.mp whole
  obtain ⟨middle, rest, same⟩ := lineRun_past ends relay later
  rw [same, LineRelay.step]
  split
  next ended => rw [lineRun_ended ended, ended]
  next =>
    exact lineRun_spent rfl (List.mem_append_right rest (List.singleton_sublist.mp turns))

end lines

end StreamBridge.Proofs.LoopEnds
