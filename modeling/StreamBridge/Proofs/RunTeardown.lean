import StreamBridge.Broker.Memory
import StreamBridge.Command.Run
import StreamBridge.Proofs.LoopEnds
import StreamBridge.Proofs.WatchedBroker

/-! Whole runs, seen from the broker. A run whose broker is watched is the run itself, and the notes
tell what it has asked for: it opens one end, relays, and once its relay has ended it tears down,
and nothing else. -/

namespace StreamBridge.Proofs.RunTeardown
open WatchedBroker BrokerRequests ReaderCalls LoopEnds

variable {β ρ : Type}

/-- A relay of records whose broker is watched. -/
def watchRecords (calls : List (Call ρ)) (relay : RecordRelay β ρ) : RecordRelay (Watched β ρ) ρ :=
  ⟨⟨relay.broker, calls⟩, relay.reader, relay.output, relay.written, relay.cancelled, relay.phase⟩

/-- What a watched relay of records is after it has worked: the relay, and more acknowledgements
among the notes. -/
def RecordsAfter (opened : Reader ρ) (calls : List (Call ρ)) (after : RecordRelay β ρ)
    (watched : RecordRelay (Watched β ρ) ρ) : Prop :=
  ∃ more, (∀ call ∈ more, Acknowledges call) ∧ watched = watchRecords (calls ++ more) after ∧
    Works opened [] after.reader

section records
variable {opened : Reader ρ} {relay : RecordRelay β ρ} {calls : List (Call ρ)}

theorem RecordsAfter.still (works : Works opened [] relay.reader) (calls : List (Call ρ)) :
    RecordsAfter opened calls relay (watchRecords calls relay) :=
  ⟨[], List.forall_mem_nil _, by rw [List.append_nil], works⟩

theorem RecordsAfter.behind {more : List (Call ρ)} {watched : RecordRelay (Watched β ρ) ρ}
    (only : ∀ call ∈ more, Acknowledges call)
    (later : RecordsAfter opened (calls ++ more) relay watched) :
    RecordsAfter opened calls relay watched := by
  obtain ⟨rest, also, same, works⟩ := later
  refine ⟨more ++ rest, fun call member => ?_, ?_, works⟩
  · exact (List.mem_append.mp member).elim (only call) (also call)
  · rw [same, List.append_assoc]

variable [Broker β ρ]

theorem readTurn_watched (now : Timestamp) (calls : List (Call ρ)) (relay : RecordRelay β ρ) :
    (watchRecords calls relay).readTurn now =
      ((relay.readTurn now).1, watchRecords calls (relay.readTurn now).2) := by
  have reads : (watchRecords calls relay).reader.read (watchRecords calls relay).cancelled
      (Broker.feeds (watchRecords calls relay).broker (watchRecords calls relay).reader.port) =
    relay.reader.read relay.cancelled (Broker.feeds relay.broker relay.reader.port) := rfl
  simp only [RecordRelay.readTurn, reads]
  rcases relay.reader.read relay.cancelled (Broker.feeds relay.broker relay.reader.port) with
    ⟨_ | _ | _, after⟩ <;> rfl

theorem works_readTurn (works : Works opened [] relay.reader) (now : Timestamp) :
    Works opened [] (relay.readTurn now).2.reader := by
  have reads := works.read relay.cancelled (Broker.feeds relay.broker relay.reader.port)
  rw [RecordRelay.readTurn]
  generalize relay.reader.read relay.cancelled _ = result at reads
  rcases result with ⟨_ | _ | _, after⟩ <;> exact reads

theorem ackTurn_watched (works : Works opened [] relay.reader) (token : Token)
    (calls : List (Call ρ)) :
    ((watchRecords calls relay).ackTurn token).1 = (relay.ackTurn token).1 ∧
    RecordsAfter opened calls (relay.ackTurn token).2
      ((watchRecords calls relay).ackTurn token).2 := by
  obtain ⟨more, only, made, after⟩ := works.acknowledge token relay.broker calls
  have watched : (watchRecords calls relay).ackTurn token =
      ((relay.ackTurn token).1, watchRecords (calls ++ more) (relay.ackTurn token).2) := by
    have asked : (watchRecords calls relay).reader.acknowledge token
        (watchRecords calls relay).broker = _ := made
    rw [RecordRelay.ackTurn, RecordRelay.ackTurn, asked]
    rcases relay.reader.acknowledge token relay.broker with ⟨⟨_ | _ | ⟨⟩, reader⟩, broker⟩ <;> rfl
  rw [watched]
  refine ⟨rfl, more, only, rfl, ?_⟩
  rw [RecordRelay.ackTurn]
  generalize relay.reader.acknowledge token relay.broker = result at after
  rcases result with ⟨⟨_ | _ | ⟨⟩, reader⟩, broker⟩ <;> exact after

theorem turn_watched (works : Works opened [] relay.reader) (clock : Clock)
    (calls : List (Call ρ)) :
    ((watchRecords calls relay).turn clock).1 = (relay.turn clock).1 ∧
    RecordsAfter opened calls (relay.turn clock).2 ((watchRecords calls relay).turn clock).2 := by
  have phase : (watchRecords calls relay).phase = relay.phase := rfl
  rw [RecordRelay.turn, RecordRelay.turn, phase]
  cases relay.phase with
  | reading =>
    have filled : Works opened [] relay.refill.reader :=
      { works with channelLine := works.channelLine }
    have refill : (watchRecords calls relay).refill = watchRecords calls relay.refill := rfl
    have written : (watchRecords calls relay).written = relay.written := rfl
    simp only [refill, written, readTurn_watched]
    exact ⟨trivial, .still (works_readTurn filled _) calls⟩
  | acknowledging token => exact ackTurn_watched works token calls
  | ended result => exact ⟨rfl, .still works calls⟩

theorem turnsFor_watched (works : Works opened [] relay.reader) (clock : Clock) (count : Nat)
    (calls : List (Call ρ)) :
    RecordsAfter opened calls (relay.turnsFor clock count)
      ((watchRecords calls relay).turnsFor clock count) := by
  induction count generalizing relay calls with
  | zero => exact .still works calls
  | succ count ih =>
    obtain ⟨moved, more, only, same, after⟩ := turn_watched works clock calls
    rw [RecordRelay.turnsFor, RecordRelay.turnsFor]
    generalize (watchRecords calls relay).turn clock = watched at moved same
    generalize relay.turn clock = plain at moved same after
    obtain ⟨goesOn, middle⟩ := watched
    obtain ⟨_, after⟩ := plain
    cases moved
    cases same
    cases goesOn with
    | true => exact .behind only (ih after _)
    | false => exact ⟨more, only, rfl, after⟩

theorem after_watched (works : Works opened [] relay.reader) (clock : Clock)
    (happening : Happening β ρ) (calls : List (Call ρ)) :
    RecordsAfter opened calls (relay.after clock happening)
      ((watchRecords calls relay).after clock (watchHappening happening)) := by
  cases happening with
  | deliver delivery =>
    refine .still ?_ calls
    exact { works with channelLine := works.channelLine }
  | change apply | cancel =>
    refine .still ?_ calls
    exact works
  | turn => exact (turn_watched works clock calls).2
  | turns => exact turnsFor_watched works clock _ calls
  | input | inputEnds => exact .still works calls

theorem run_watched (works : Works opened [] relay.reader) (clock : Clock)
    (schedule : List (Happening β ρ)) (calls : List (Call ρ)) :
    RecordsAfter opened calls (relay.run clock schedule)
      ((watchRecords calls relay).run clock (schedule.map watchHappening)) := by
  induction schedule generalizing relay calls with
  | nil => exact .still works calls
  | cons happening rest ih =>
    have ended : (watchRecords calls relay).hasEnded = relay.hasEnded := rfl
    cases done : relay.hasEnded with
    | true =>
      rw [run_ended done, run_ended (ended.trans done)]
      exact .still works calls
    | false =>
      rw [List.map_cons, run_working done, run_working (ended.trans done)]
      obtain ⟨more, only, same, after⟩ := after_watched works clock happening calls
      rw [same]
      exact .behind only (ih after _)

end records
/-- A relay of lines whose broker is watched. -/
def watchLines (calls : List (Call ρ)) (relay : LineRelay β) : LineRelay (Watched β ρ) :=
  ⟨⟨relay.broker, calls⟩, relay.writer, relay.input, relay.cancelled, relay.result⟩

/-- A request that a relay of lines makes while it works. -/
inductive Publishes : Call ρ → Prop where
  | publish (subject : String) (payload : Bytes) (options : PublishOptions)
      (answer : Except BrokerError Unit) : Publishes (.publish subject payload options answer)

/-- What a watched relay of lines is after it has worked: the relay, with the writer that it had,
and more publish calls among the notes. -/
def LinesAfter (writer : Writer) (calls : List (Call ρ)) (after : LineRelay β)
    (watched : LineRelay (Watched β ρ)) : Prop :=
  ∃ more, (∀ call ∈ more, Publishes call) ∧ watched = watchLines (calls ++ more) after ∧
    after.writer = writer

section lines
variable {writer : Writer} {relay : LineRelay β} {calls : List (Call ρ)}

theorem LinesAfter.still (same : relay.writer = writer) (calls : List (Call ρ)) :
    LinesAfter writer calls relay (watchLines calls relay) :=
  ⟨[], List.forall_mem_nil _, by rw [List.append_nil], same⟩

theorem LinesAfter.behind {more : List (Call ρ)} {watched : LineRelay (Watched β ρ)}
    (only : ∀ call ∈ more, Publishes call)
    (later : LinesAfter writer (calls ++ more) relay watched) :
    LinesAfter writer calls relay watched := by
  obtain ⟨rest, also, same, kept⟩ := later
  refine ⟨more ++ rest, fun call member => ?_, ?_, kept⟩
  · exact (List.mem_append.mp member).elim (only call) (also call)
  · rw [same, List.append_assoc]

variable [Broker β ρ]

end lines
/-- How a run reports what its loop and its teardown have come to: it succeeds where both do, and
a failure of the teardown hides that of the loop. -/
structure Reports {ε : Type} (loop teardown result : Except ε Unit) : Prop where
  succeeds : result = .ok () ↔ loop = .ok () ∧ teardown = .ok ()
  torn : ∀ error, teardown = .error error → result = .error error
  looped : ∀ error, loop = .error error → teardown = .ok () → result = .error error

/-- The exit of a run that has ended. -/
def exitOf (output : Bytes) : Except RunError Unit → Exit
  | .ok () => ⟨0, output, ""⟩
  | .error error => Command.failure output (Outline.runError error)

section runs
variable [Broker β ρ]

/-- A loop from a source: what opening it has asked for, what the loop has, and the relay that it
leaves. -/
structure SourceLoop (clock : Clock) (connection : ConnectionSettings) (params : SourceParams)
    (schedule : List (Happening β ρ)) (broker : β) (reader : Reader ρ)
    (opening acknowledged : List (Call ρ)) (relay : RecordRelay β ρ) : Prop where
  opens : ∀ call ∈ opening, Opens call
  acknowledges : ∀ call ∈ acknowledged, Acknowledges call
  loops : ∃ opened,
    (Run.openSource connection params).make (⟨broker, []⟩ : Watched β ρ) =
      (.ok reader, ⟨opened, opening⟩) ∧
    (RecordRelay.start reader (⟨opened, opening⟩ : Watched β ρ)).run clock
      (schedule.map watchHappening) = watchRecords (opening ++ acknowledged) relay

/-- A run from a source, with its exit and its requests. Nothing is asked for behind a source that
could not be opened; a loop that has ended is followed by one teardown, and by nothing else. -/
inductive SourceRun (clock : Clock) (connection : ConnectionSettings) (params : SourceParams)
    (schedule : List (Happening β ρ)) (broker : β) : Option Exit → List (Call ρ) → Prop where
  | unopened (error : RunError) (after : β) (opening : List (Call ρ))
      (opens : ∀ call ∈ opening, Opens call)
      (fails : (Run.openSource connection params).make (⟨broker, []⟩ : Watched β ρ) =
        (.error error, ⟨after, opening⟩)) :
      SourceRun clock connection params schedule broker (some (exitOf [] (.error error))) opening
  | working (reader : Reader ρ) (opening acknowledged : List (Call ρ)) (relay : RecordRelay β ρ)
      (loop : SourceLoop clock connection params schedule broker reader opening acknowledged relay)
      (goesOn : relay.hasEnded = false) :
      SourceRun clock connection params schedule broker none (opening ++ acknowledged)
  | ended (reader : Reader ρ) (opening acknowledged torn : List (Call ρ))
      (relay : RecordRelay β ρ) (looped : Except SourceError Unit)
      (teardown : Except BrokerError Unit) (result : Except SourceError Unit)
      (loop : SourceLoop clock connection params schedule broker reader opening acknowledged relay)
      (ends : relay.phase = .ended looped)
      (tearsDown : TearsDown reader.port reader.consumer torn teardown)
      (reports : Reports looped (teardown.mapError .broker) result) :
      SourceRun clock connection params schedule broker
        (some (exitOf relay.output (result.mapError .source))) (opening ++ acknowledged ++ torn)

theorem openSource_works {connection : ConnectionSettings} {params : SourceParams}
    {broker opened : β} {reader : Reader ρ}
    (opens : (Run.openSource connection params).make broker = (.ok reader, opened)) :
    Works reader [] reader := by
  obtain ⟨⟨⟩, _, _, attached⟩ := bind_ok opens
  obtain ⟨_, _, _, _, _, _, _, _, rfl⟩ := attach_ok (mapError_ok attached)
  exact ⟨rfl, rfl, rfl, rfl, rfl⟩

theorem exit_ended (result : Except RunError Unit) (output : Bytes) (broker : β) :
    Command.exit ⟨some result, output, broker⟩ = some (exitOf output result) := by
  cases result <;> rfl

/-- A loop to a destination: what opening it has asked for, what the loop has, and the relay that it
leaves. -/
structure DestinationLoop (connection : ConnectionSettings) (params : DestinationParams)
    (schedule : List (Happening β ρ)) (broker : β) (opening published : List (Call ρ))
    (relay : LineRelay β) : Prop where
  opens : ∀ call ∈ opening, Opens call
  publishes : ∀ call ∈ published, Publishes call
  loops : ∃ writer opened,
    (Run.openDestination connection params).make (⟨broker, []⟩ : Watched β ρ) =
      (.ok writer, ⟨opened, opening⟩) ∧
    (LineRelay.start writer (⟨opened, opening⟩ : Watched β ρ)).run
      (schedule.map watchHappening) = watchLines (opening ++ published) relay

/-- A run to a destination, with its exit and its requests: as from a source, and the teardown
closes the connection. -/
inductive DestinationRun (connection : ConnectionSettings) (params : DestinationParams)
    (schedule : List (Happening β ρ)) (broker : β) : Option Exit → List (Call ρ) → Prop where
  | unopened (error : RunError) (after : β) (opening : List (Call ρ))
      (opens : ∀ call ∈ opening, Opens call)
      (fails : (Run.openDestination connection params).make (⟨broker, []⟩ : Watched β ρ) =
        (.error error, ⟨after, opening⟩)) :
      DestinationRun connection params schedule broker (some (exitOf [] (.error error))) opening
  | working (opening published : List (Call ρ)) (relay : LineRelay β)
      (loop : DestinationLoop connection params schedule broker opening published relay)
      (goesOn : relay.hasEnded = false) :
      DestinationRun connection params schedule broker none (opening ++ published)
  | ended (opening published : List (Call ρ)) (relay : LineRelay β)
      (looped : Except LineError Unit) (teardown : Except BrokerError Unit)
      (result : Except LineError Unit)
      (loop : DestinationLoop connection params schedule broker opening published relay)
      (ends : relay.result = some looped)
      (reports : Reports looped (teardown.mapError fun error => .write (.broker error)) result) :
      DestinationRun connection params schedule broker
        (some (exitOf [] (result.mapError .destination)))
        (opening ++ published ++ [.close teardown])

/-- What a command comes to, by what its settings and its mode are. Where there is nothing to run
with, or nothing to run, the broker is not asked for anything. -/
inductive Account (durable : String) (clock : Clock) (arguments : List String)
    (place : Surroundings) (schedule : List (Happening β ρ)) (broker : β) :
    Option Exit → List (Call ρ) → Prop where
  | unsettled (outline : String)
      (refused : Command.settings durable arguments place = .error outline) :
      Account durable clock arguments place schedule broker (some (Command.failure [] outline)) []
  | unknown (settings : Settings)
      (loaded : Command.settings durable arguments place = .ok settings)
      (source : Command.mode arguments ≠ "source")
      (destination : Command.mode arguments ≠ "destination") :
      Account durable clock arguments place schedule broker (some ⟨2, [], Command.usage⟩) []
  | noSource (settings : Settings)
      (loaded : Command.settings durable arguments place = .ok settings)
      (asked : Command.mode arguments = "source") (missing : settings.source = none) :
      Account durable clock arguments place schedule broker
        (some (exitOf [] (.error (.settings .noSource)))) []
  | noDestination (settings : Settings)
      (loaded : Command.settings durable arguments place = .ok settings)
      (asked : Command.mode arguments = "destination") (missing : settings.destination = none) :
      Account durable clock arguments place schedule broker
        (some (exitOf [] (.error (.settings .noDestination)))) []
  | source (settings : Settings) (source : SourceSettings) (exit : Option Exit)
      (calls : List (Call ρ)) (loaded : Command.settings durable arguments place = .ok settings)
      (asked : Command.mode arguments = "source") (there : settings.source = some source)
      (runs : SourceRun clock settings.connection source.params schedule broker exit calls) :
      Account durable clock arguments place schedule broker exit calls
  | destination (settings : Settings) (destination : DestinationSettings) (exit : Option Exit)
      (calls : List (Call ρ)) (loaded : Command.settings durable arguments place = .ok settings)
      (asked : Command.mode arguments = "destination")
      (there : settings.destination = some destination)
      (runs : DestinationRun settings.connection destination.params schedule broker exit calls) :
      Account durable clock arguments place schedule broker exit calls

section sources
variable {durable : String} {arguments : List String} {place : Surroundings} {settings : Settings}
  {source : SourceSettings} {broker opened : β} {reader : Reader ρ}
  (loaded : Command.settings durable arguments place = .ok settings)
  (asked : Command.mode arguments = "source") (there : settings.source = some source)
  (opens : (Run.openSource settings.connection source.params).make broker = (.ok reader, opened))

include opens in
theorem openSource_fit : Fit (RecordRelay.start reader opened) := by
  obtain ⟨⟨⟩, _, _, attached⟩ := bind_ok opens
  obtain ⟨_, _, _, _, _, _, _, _, rfl⟩ := attach_ok (mapError_ok attached)
  exact ⟨⟨rfl, rfl, rfl⟩, fun _ => rfl, nofun, nofun⟩

include loaded asked there opens

theorem source_exits {clock : Clock} {schedule : List (Happening β ρ)}
    (ended : ((RecordRelay.start reader opened).run clock schedule).hasEnded = true) :
    ∃ exit, (Command.run durable clock arguments place schedule broker).1 = some exit := by
  have begun : Works reader [] (RecordRelay.start reader opened).reader := openSource_works opens
  obtain ⟨_, _, _, works⟩ := run_watched begun clock schedule []
  simp only [Command.run, loaded, asked, Run.source, there, opens]
  generalize (RecordRelay.start reader opened).run clock schedule = relay at ended works
  rw [RecordRelay.hasEnded] at ended
  cases phase : relay.phase with
  | ended looped =>
    obtain ⟨_, torn, _, _, result⟩ := works.stop relay.broker []
    simp only [Run.stopSource, phase, result, Option.map_some, exit_ended]
    exact ⟨_, rfl⟩
  | reading | acknowledging =>
    rw [phase] at ended
    cases ended

/-- What ends the loop of a command from a source, so that the command tears down and exits: a turn
for one of the reasons in `RecordsEnd` and for no other, and two turns after a cancellation,
whatever else happens. -/
theorem source_ends (clock : Clock) (before later : List (Happening β ρ)) :
    let relay := (RecordRelay.start reader opened).run clock before
    (relay.hasEnded = false → ∀ result,
      (relay.turn clock).2.phase = .ended result ↔ RecordsEnd relay result) ∧
    (∀ happening result, takesTurn happening = true → RecordsEnd relay result →
      ∃ exit, (Command.run durable clock arguments place (before ++ happening :: later)
        broker).1 = some exit) ∧
    (.cancel ∈ before → 2 ≤ later.countP takesTurn →
      ∃ exit, (Command.run durable clock arguments place (before ++ later) broker).1 =
        some exit) := by
  have fit : Fit (RecordRelay.start reader opened) := openSource_fit opens
  refine ⟨turn_ends_iff (run_fit clock fit before), fun happening result turns cause => ?_,
    fun cancels enough => ?_⟩
  · have ended : ((RecordRelay.start reader opened).run clock
        (before ++ happening :: later)).hasEnded = true := by
      rw [RecordRelay.hasEnded, cause.run fit turns]
    exact source_exits loaded asked there opens ended
  · exact source_exits loaded asked there opens (cancelled_run_ends fit cancels enough)

end sources

section destinations
variable {durable : String} {arguments : List String} {place : Surroundings} {settings : Settings}
  {destination : DestinationSettings} {broker opened : β} {writer : Writer}
  (loaded : Command.settings durable arguments place = .ok settings)
  (asked : Command.mode arguments = "destination")
  (there : settings.destination = some destination)
  (opens : (Run.openDestination settings.connection destination.params).make broker =
    (.ok writer, opened))
include loaded asked there opens

theorem destination_exits {clock : Clock} {schedule : List (Happening β ρ)}
    (ended : ((LineRelay.start writer opened).run schedule).hasEnded = true) :
    ∃ exit, (Command.run durable clock arguments place schedule broker).1 = some exit := by
  simp only [Command.run, loaded, asked, Run.destination, there, opens]
  generalize (LineRelay.start writer opened).run schedule = relay at ended
  obtain ⟨looped, ends⟩ := Option.isSome_iff_exists.mp ended
  simp only [Run.closeDestination, ends, exit_ended]
  exact ⟨_, rfl⟩

/-- What ends the loop of a command to a destination: a turn for one of the reasons in `LinesEnd`
and for no other, a turn after a cancellation, and all the turns that there are to take after the
end of the input. -/
theorem destination_ends (clock : Clock) (before later : List (Happening β ρ)) :
    let relay := (LineRelay.start writer opened).run before
    (relay.hasEnded = false → ∀ result,
      relay.turn.2.result = some result ↔ LinesEnd relay result) ∧
    (∀ happening result, takesTurn happening = true → relay.hasEnded = false →
      LinesEnd relay result →
      ∃ exit, (Command.run durable clock arguments place (before ++ happening :: later)
        broker).1 = some exit) ∧
    (.cancel ∈ before → (∃ happening ∈ later, takesTurn happening = true) →
      ∃ exit, (Command.run durable clock arguments place (before ++ later) broker).1 =
        some exit) ∧
    (.inputEnds ∈ before → .turns ∈ later →
      ∃ exit, (Command.run durable clock arguments place (before ++ later) broker).1 =
        some exit) := by
  refine ⟨lineTurn_ends_iff, fun happening result turns goesOn cause => ?_,
    fun cancels some => ?_, fun ends turns => ?_⟩
  · exact destination_exits loaded asked there opens
      (hasEnded_of_result (cause.run goesOn turns))
  · exact destination_exits loaded asked there opens (cancelled_lineRun_ends cancels some)
  · have whole : [.inputEnds, .turns].Sublist (before ++ later) :=
      (List.singleton_sublist.mpr ends).append (List.singleton_sublist.mpr turns)
    exact destination_exits loaded asked there opens (spent_lineRun_ends _ whole)

end destinations
end runs

def reads : Settings where
  connection := .default
  source := some { SourceSettings.default "durable" with subject := "orders", stream := "ORDERS" }
  destination := none

/-- A refused acknowledgement ends the loop, and the teardown goes through all its steps. -/
example :
    (Run.source .epoch reads [.deliver (MemoryBroker.message 7 .epoch [0x61]), .turns]
      (⟨{ MemoryBroker.fresh with failing := [.acknowledge] }, []⟩ :
        Watched MemoryBroker UInt64)).broker.calls.drop 4 =
      [.acknowledge 7 (.error (.failed .acknowledge "mock ack failure")), .unsubscribe 0 (.ok ()),
        .deleteConsumer "ORDERS" "durable" (.ok ()), .close (.ok ())] := rfl

end StreamBridge.Proofs.RunTeardown
