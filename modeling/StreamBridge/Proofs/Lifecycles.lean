import StreamBridge.Proofs.Teardown

/-! The life of a reader. It begins created, runs from the first look for a record, and is stopped
by the first stop, whatever becomes of that stop. A stopped reader refuses every call that could
hand out or acknowledge something, and such a call leaves no mark; nothing that happens later brings
it back. -/

namespace StreamBridge.Proofs.Lifecycles
open ReaderSession ReaderCalls SessionSteps SessionHistory SessionConservation

/-- The place of a lifecycle in a reader's life. -/
def place : Lifecycle → Nat
  | .created => 0
  | .running => 1
  | .stopped => 2

/-- Acts that look for a record: reads, whether or not they are cancelled, and the question whether
there is one. -/
def Looks (act : Act) : Prop := (∃ cancelled, act = .read cancelled) ∨ act = .hasNext

theorem listening_inside : (.listening : ReadStage UInt64) ≠ .entering := nofun

/-- Behind its entrance, a read does not touch the mark that the reader has started. -/
theorem stepRead_started (stage : ReadStage UInt64) (reader : Reader UInt64) (cancelled fed : Bool)
    (inside : stage ≠ .entering) :
    (reader.stepRead 0 cancelled fed stage).2.started = reader.started ∧
      ∀ later, (reader.stepRead 0 cancelled fed stage).1 = .next later → later ≠ .entering := by
  cases stage with
  | entering => exact absurd rfl inside
  | queueing =>
    simp only [Reader.stepRead, Reader.queueRead]
    split
    next => exact ⟨rfl, fun _ next => by cases next⟩
    next => split <;> simp
  | listening =>
    simp only [Reader.stepRead, Reader.listen]
    split
    next => exact ⟨rfl, fun _ next => by cases next⟩
    next =>
      cases reader.channel.take with
      | none => simp only; split <;> exact ⟨rfl, fun _ next => by cases next⟩
      | some taken =>
        refine ⟨rfl, fun later next same => ?_⟩
        rw [same] at next
        cases next
  | holding message =>
    simp only [Reader.stepRead, Reader.handOut]
    split
    next => exact ⟨rfl, fun _ next => by cases next⟩
    next =>
      rw [track_pending]
      exact ⟨rfl, fun _ next => by cases next⟩

theorem advance_started (steps : Nat) (stage : ReadStage UInt64) (reader : Reader UInt64)
    (cancelled fed : Bool) (inside : stage ≠ .entering) :
    (advance cancelled fed steps stage reader).2.started = reader.started := by
  induction steps generalizing stage reader with
  | zero => rfl
  | succ steps ih =>
    obtain ⟨kept, later⟩ := stepRead_started stage reader cancelled fed inside
    rw [advance]
    generalize reader.stepRead 0 cancelled fed stage = result at kept later
    rcases result with ⟨stage | _ | result, after⟩
    · exact (ih stage after (later stage rfl)).trans kept
    · exact kept
    · exact kept

theorem follow_started (session : Session) (cancelled : Bool) (stage : ReadStage UInt64) :
    (session.follow cancelled stage).2.reader = (advance cancelled
      (Broker.feeds session.broker session.reader.port) 4 stage session.reader).2 := by
  rw [Session.follow]
  rcases advance cancelled _ 4 stage session.reader with ⟨_ | error | record, after⟩ <;> rfl

theorem stopped_hasNext {session : Session} (stopped : session.reader.stopped = true) :
    session.step .hasNext = (.truth false, session) := by
  rw [Session.step, Reader.hasNext, if_pos stopped]

section valid
variable {opened session : Session} {come settled unsettled : List (Delivery UInt64)}
  (valid : Valid opened come settled unsettled session)
include valid

/-- A reader starts with the first look for a record, if nothing has stopped it before. -/
theorem step_started (running : session.reader.stopped = false) {act : Act} (goesOn : act ≠ .stop) :
    (session.step act).2.reader.started = true ↔
      Looks act ∨ session.reader.started = true := by
  have abandoned := abandon_preserves valid
  cases act with
  | read cancelled =>
    have line := abandoned.alone.channelLine
    rw [Session.step, follow_started, advance_entering _ _ _ line]
    have kept : session.abandon.reader.stopped = false := running
    refine iff_of_true ?_ (.inl (.inl ⟨cancelled, rfl⟩))
    rw [if_neg (Bool.eq_false_iff.mp kept)]
    split
    next => rfl
    next => exact advance_started 2 .listening _ cancelled _ listening_inside
  | hasNext => simp [Session.step, Reader.hasNext, running, Looks]
  | wake cancelled =>
    rw [Session.step]
    split
    next =>
      rw [follow_started, advance_started 4 .listening _ cancelled _ listening_inside]
      simp [Looks]
    next => simp [Looks]
  | deliver sender sequence timestamp payload =>
    rcases deliver_cases session sender (MemoryBroker.message sequence timestamp payload) with
      ⟨error, come⟩ | ⟨_, come⟩ | ⟨_, come⟩ <;>
      rw [Session.step, come] <;> simp [Looks, Session.setChannel]
  | acknowledge token =>
    have answered := acknowledge_cases valid.alone token
    rw [Session.step]
    generalize session.acknowledge token = result at answered
    cases answered <;> simp [Looks]
  | stop => exact absurd rfl goesOn
  | withdraw | abandon | setFailing | setLatency =>
    simp [Looks, Session.step, Session.withdraw, Session.setChannel, Session.abandon,
      Reader.leaveChannel]

theorem run_started (running : session.reader.stopped = false) {acts : List Act}
    (goesOn : .stop ∉ acts) :
    (session.run acts).reader.started = true ↔
      (∃ act ∈ acts, Looks act) ∨ session.reader.started = true := by
  induction acts generalizing session come settled unsettled with
  | nil => simp [Session.run]
  | cons act rest ih =>
    -- Only a stop could stop the reader, so each later act finds it as `step_started` asks.
    obtain ⟨_, _, stepped⟩ := step_preserves valid act
    have other : act ≠ .stop := fun stops => goesOn (stops ▸ .head rest)
    have still : (session.step act).2.reader.stopped = false := by
      rw [Bool.eq_false_iff, Ne, step_stopped valid, running]
      simp [other]
    rw [Session.run_cons, ih stepped still fun member => goesOn (.tail act member),
      step_started valid running other]
    simp only [List.mem_cons, exists_eq_or_imp]
    rw [← or_assoc, @or_comm (∃ later ∈ rest, _)]

theorem stopped_idle (stopped : session.reader.stopped = true) : session.waiting = false :=
  Bool.eq_false_iff.mpr fun waiting => by
    rw [valid.running waiting] at stopped
    cases stopped

/-- A stopped reader refuses to read, and the refusal leaves no mark. -/
theorem stopped_read (stopped : session.reader.stopped = true) (cancelled : Bool) :
    session.step (.read cancelled) = (.sourceError .stopped, session) := by
  have idle := stopped_idle valid stopped
  have line : session.reader.channelLine = [] := by simp [valid.alone.channelLine, idle]
  have left : session.abandon = session := by
    rw [abandon_alone valid.alone, ← line, ← idle]
  rw [Session.step, left, Session.follow, advance_entering _ _ _ line, if_pos stopped]
  simp only [Session.conclude, admitted_same, List.append_nil, Option.isNone_some, ← idle]

theorem stopped_acknowledge (stopped : session.reader.stopped = true) (token : Token) :
    session.step (.acknowledge token) = (.sourceError .stopped, session) := by
  have refused := acknowledge_cases valid.alone token
  rw [Session.step]
  generalize session.acknowledge token = result at refused
  cases refused with
  | stopped => rfl
  | untracked running | nothing running | outOfOrder _ _ running | refused _ _ running
  | settled _ _ running =>
    rw [stopped] at running
    cases running

/-- What can happen to a stopped reader: more may come, and it may be stopped again, but nothing is
handed out and nothing is acknowledged. -/
theorem stopped_step (stopped : session.reader.stopped = true) (act : Act) :
    (session.step act).2.handedOut = session.handedOut ∧
      (session.step act).2.broker.acked = session.broker.acked ∧
      (session.step act).2.acknowledged = session.acknowledged := by
  cases act with
  | read cancelled =>
    rw [stopped_read valid stopped cancelled]
    exact ⟨rfl, rfl, rfl⟩
  | wake cancelled =>
    rw [Session.step, if_neg (Bool.eq_false_iff.mp (stopped_idle valid stopped))]
    exact ⟨rfl, rfl, rfl⟩
  | acknowledge token =>
    rw [stopped_acknowledge valid stopped token]
    exact ⟨rfl, rfl, rfl⟩
  | hasNext =>
    rw [stopped_hasNext stopped]
    exact ⟨rfl, rfl, rfl⟩
  | deliver sender sequence timestamp payload =>
    rcases deliver_cases session sender (MemoryBroker.message sequence timestamp payload) with
      ⟨error, come⟩ | ⟨_, come⟩ | ⟨_, come⟩ <;> rw [Session.step, come] <;> exact ⟨rfl, rfl, rfl⟩
  | stop =>
    -- A second stop goes on where the first one failed, which settles nothing.
    have again := Teardown.stop_stopped valid
    have same : (ended session.abandon).acked = session.broker.acked := by
      unfold ended
      split <;> rfl
    generalize session.step .stop = result at again
    cases again with
    | kept => exact ⟨rfl, rfl, rfl⟩
    | undeleted | closed => exact ⟨rfl, same, rfl⟩
  | withdraw | abandon | setFailing | setLatency => exact ⟨rfl, rfl, rfl⟩

theorem stopped_run (stopped : session.reader.stopped = true) (more : List Act) :
    (session.run more).handedOut = session.handedOut ∧
      (session.run more).broker.acked = session.broker.acked ∧
      (session.run more).acknowledged = session.acknowledged := by
  induction more generalizing session come settled unsettled with
  | nil => exact ⟨rfl, rfl, rfl⟩
  | cons act rest ih =>
    obtain ⟨_, _, stepped⟩ := step_preserves valid act
    obtain ⟨handedOut, acked, acknowledged⟩ := stopped_step valid stopped act
    obtain ⟨sameHandedOut, sameAcked, sameAcknowledged⟩ :=
      ih stepped ((step_stopped valid act).mpr (.inr stopped))
    exact ⟨sameHandedOut.trans handedOut, sameAcked.trans acked,
      sameAcknowledged.trans acknowledged⟩

end valid

section attached
variable {port : Nat} {params : SourceParams} {origin broker : MemoryBroker}
  {reader : Reader UInt64}
  (attached : (Reader.attach port params).make origin = (.ok reader, broker))
include attached

theorem attached_created : reader.lifecycle = .created := by
  obtain ⟨config, configured, rfl, rfl⟩ := attach_memory attached
  rfl

/-- Where a reader is in its life is known from the acts alone. -/
theorem lifecycle_acts (acts : List Act) :
    let lifecycle := ((Session.start reader broker).run acts).reader.lifecycle
    (lifecycle = .stopped ↔ .stop ∈ acts) ∧
      (lifecycle = .running ↔ .stop ∉ acts ∧ ∃ act ∈ acts, Looks act) ∧
      (lifecycle = .created ↔ .stop ∉ acts ∧ ¬ ∃ act ∈ acts, Looks act) := by
  have stops := attached_stopped attached acts
  have fresh : reader.stopped = false ∧ reader.started = false := by
    obtain ⟨config, configured, rfl, rfl⟩ := attach_memory attached
    exact ⟨rfl, rfl⟩
  by_cases stop : .stop ∈ acts
  · simp [Reader.lifecycle, stops.mpr stop, stop]
  · have running := Bool.eq_false_iff.mpr fun stopped => stop (stops.mp stopped)
    have starts := run_started (start_valid attached) fresh.1 stop
    rw [show (Session.start reader broker).reader.started = false from fresh.2] at starts
    by_cases looks : ∃ act ∈ acts, Looks act
    · simp [Reader.lifecycle, running, starts.mpr (.inl looks), stop, looks]
    · have idle : ((Session.start reader broker).run acts).reader.started = false :=
        Bool.eq_false_iff.mpr fun started => looks ((starts.mp started).resolve_right nofun)
      simp [Reader.lifecycle, running, idle, stop, looks]

theorem lifecycle_onward (acts more : List Act) :
    place ((Session.start reader broker).run acts).reader.lifecycle ≤
      place ((Session.start reader broker).run (acts ++ more)).reader.lifecycle := by
  obtain ⟨-, running, created⟩ := lifecycle_acts attached acts
  obtain ⟨stops, -, stays⟩ := lifecycle_acts attached (acts ++ more)
  cases first : ((Session.start reader broker).run acts).reader.lifecycle with
  | created => exact Nat.zero_le _
  | running =>
    obtain ⟨-, act, member, looks⟩ := running.mp first
    cases second : ((Session.start reader broker).run (acts ++ more)).reader.lifecycle with
    | created =>
      exact absurd ⟨act, List.mem_append_left more member, looks⟩ (stays.mp second).2
    | running | stopped => decide
  | stopped =>
    have stop := (lifecycle_acts attached acts).1.mp first
    exact Nat.le_of_eq (congrArg place (stops.mpr (List.mem_append_left more stop))).symm

end attached

/-- However a reader is used, and whatever comes and fails: it begins created, runs from the first
read or question whether there is a record on, and is stopped from the first stop on, and never goes
back. Once stop was called, no matter how that ended, every read and every acknowledgement is
refused and no record is ahead; these calls change nothing at all, and nothing is handed out or
acknowledged any more, whatever else may happen. -/
theorem stopped_for_good {port : Nat} {params : SourceParams} {origin broker : MemoryBroker}
    {reader : Reader UInt64}
    (attached : (Reader.attach port params).make origin = (.ok reader, broker))
    (acts : List Act) :
    let session := (Session.start reader broker).run acts
    reader.lifecycle = .created ∧
    (session.reader.lifecycle = .stopped ↔ .stop ∈ acts) ∧
    (session.reader.lifecycle = .running ↔ .stop ∉ acts ∧ ∃ act ∈ acts, Looks act) ∧
    (session.reader.lifecycle = .created ↔ .stop ∉ acts ∧ ¬ ∃ act ∈ acts, Looks act) ∧
    (∀ more, place session.reader.lifecycle ≤ place (session.run more).reader.lifecycle) ∧
    (.stop ∈ acts →
      (∀ cancelled, session.step (.read cancelled) = (.sourceError .stopped, session)) ∧
      (∀ token, session.step (.acknowledge token) = (.sourceError .stopped, session)) ∧
      session.step .hasNext = (.truth false, session) ∧
      ∀ more, (session.run more).handedOut = session.handedOut ∧
        (session.run more).broker.acked = session.broker.acked ∧
        (session.run more).acknowledged = session.acknowledged) := by
  intro session
  obtain ⟨settled, unsettled, valid⟩ := attached_run attached acts
  obtain ⟨stops, running, created⟩ := lifecycle_acts attached acts
  refine ⟨attached_created attached, stops, running, created, fun more => ?_, fun stop => ?_⟩
  · have whole : (Session.start reader broker).run (acts ++ more) = session.run more :=
      List.foldl_append
    rw [← whole]
    exact lifecycle_onward attached acts more
  · have stopped := (attached_stopped attached acts).mpr stop
    exact ⟨stopped_read valid stopped, stopped_acknowledge valid stopped,
      stopped_hasNext stopped, stopped_run valid stopped⟩

/-- A stop that fails to end the subscription, with a message that comes behind it. -/
def refusedStop : List Act :=
  [.setFailing .unsubscribe true, .stop, .deliver 1 7 .epoch [0x61]]

theorem stopped_for_good_refused :
    ∃ reader broker, (Reader.attach 0 narrow).make MemoryBroker.fresh = (.ok reader, broker) ∧
      .stop ∈ refusedStop ∧
      let session := (Session.start reader broker).run refusedStop
      session.reader.channel.buffer.map (·.receipt) = [7] ∧
      session.reader.lifecycle = .stopped ∧
      session.step (.read false) = (.sourceError .stopped, session) := by
  have attached : (Reader.attach 0 narrow).make MemoryBroker.fresh =
      (.ok (Reader.fresh 0 ⟨"stream", "durable", _⟩ narrow), _) := rfl
  have stop : Act.stop ∈ refusedStop := .tail _ (.head _)
  obtain ⟨_, stops, _, _, _, refuses⟩ := stopped_for_good attached refusedStop
  exact ⟨_, _, attached, stop, rfl, stops.mpr stop, (refuses stop).1 false⟩

end StreamBridge.Proofs.Lifecycles
