import StreamBridge.Forwarding
import StreamBridge.Proofs.ReaderCalls

/-! A forwarder and a reader at the two ends of a channel, each taking its steps whenever it does.
What the reader hands out is what the subscription brings, message by message and in order. -/

namespace StreamBridge.Proofs.ForwardedMessages
open ReaderCalls

variable {ρ : Type}

/-- A forwarder and the reader of its channel. `stage` is how far the reader's call has got, where a
call that is about to begin counts as entering; `outcomes` lists what the earlier calls returned. -/
structure Pipe (ρ : Type) where
  forwarder : Forwarder ρ
  reader : Reader ρ
  stage : ReadStage ρ
  outcomes : List (Except SourceError Record)

/-- Something that happens to a pipe. -/
inductive Act (ρ : Type) where
  | arrive (arrivals : List (Arrival ρ))
  /-- The subscription has ended. -/
  | finish
  /-- The forwarder takes a step. -/
  | forward
  /-- The reader takes a step of its call, or of the next one. -/
  | read

namespace Pipe

def start (forwarder : Forwarder ρ) (reader : Reader ρ) : Pipe ρ :=
  ⟨forwarder, reader, .entering, []⟩

def forward (pipe : Pipe ρ) : Pipe ρ :=
  match pipe.forwarder.step pipe.reader.channel with
  | none => pipe
  | some (forwarder, channel) =>
    { pipe with forwarder := forwarder, reader := { pipe.reader with channel := channel } }

def read (pipe : Pipe ρ) : Pipe ρ :=
  match pipe.reader.stepRead 0 false (!pipe.forwarder.isDone) pipe.stage with
  | (.next stage, reader) => { pipe with reader := reader, stage := stage }
  | (.waiting, reader) => { pipe with reader := reader }
  | (.finished result, reader) =>
    { pipe with reader := reader, stage := .entering, outcomes := pipe.outcomes ++ [result] }

def step (pipe : Pipe ρ) : Act ρ → Pipe ρ
  | .arrive arrivals => { pipe with forwarder := pipe.forwarder.receive arrivals }
  | .finish => { pipe with forwarder := pipe.forwarder.finish }
  | .forward => pipe.forward
  | .read => pipe.read

def run (pipe : Pipe ρ) (acts : List (Act ρ)) : Pipe ρ := acts.foldl step pipe

theorem run_cons (pipe : Pipe ρ) (act : Act ρ) (rest : List (Act ρ)) :
    pipe.run (act :: rest) = (pipe.step act).run rest := rfl

end Pipe

/-- A forwarder that goes on as long as it can takes a number of steps, with the reader at rest. -/
theorem runFor_steps (pipe : Pipe ρ) (count : Nat) :
    ∃ steps, let after := pipe.run (.replicate steps .forward)
      pipe.forwarder.runFor count pipe.reader.channel =
        (after.forwarder, after.reader.channel) := by
  induction count generalizing pipe with
  | zero => exact ⟨0, rfl⟩
  | succ count ih =>
    rw [Forwarder.runFor]
    cases step : pipe.forwarder.step pipe.reader.channel with
    | none => exact ⟨0, rfl⟩
    | some moved =>
      obtain ⟨steps, later⟩ := ih pipe.forward
      have moves : pipe.forward = { pipe with
          forwarder := moved.1
          reader := { pipe.reader with channel := moved.2 } } := by rw [Pipe.forward, step]
      rw [moves] at later
      refine ⟨steps + 1, ?_⟩
      rw [List.replicate_succ, Pipe.run_cons, Pipe.step, moves]
      exact later

def message? : Arrival ρ → Option (Delivery ρ)
  | .message delivery => some delivery
  | .failure _ => none

/-- The messages that a subscription brings, until it ends. -/
def brought : List (Act ρ) → List (Delivery ρ)
  | [] => []
  | .arrive arrivals :: rest => arrivals.filterMap message? ++ brought rest
  | .finish :: _ => []
  | .forward :: rest | .read :: rest => brought rest

/-- The message that a call has taken and not handed out yet. -/
def inHand : ReadStage ρ → List (Delivery ρ)
  | .holding delivery => [delivery]
  | .entering | .queueing | .listening => []

/-- The messages that have come and are not handed out yet, the oldest first. -/
def underWay (pipe : Pipe ρ) : List (Delivery ρ) :=
  inHand pipe.stage ++ pipe.reader.channel.buffer ++ pipe.forwarder.held.toList ++
    pipe.forwarder.arrived.filterMap message?

/-- A pipe that is shared with nobody, and open. -/
structure Alone (pipe : Pipe ρ) : Prop where
  running : pipe.reader.stopped = false
  accepts : pipe.reader.channel.closed = false
  unlined : pipe.reader.channel.line = []
  ownLine : pipe.reader.channelLine = lineAt pipe.stage

section steps
variable {pipe : Pipe ρ}

/-- What a step of the forwarder can do. -/
inductive Forwards (pipe : Pipe ρ) : Pipe ρ → Prop where
  | idle (empty : pipe.forwarder.held = none) (none : pipe.forwarder.arrived = []) :
      Forwards pipe pipe
  | full (delivery : Delivery ρ) (held : pipe.forwarder.held = some delivery)
      (full : pipe.reader.channel.capacity ≤ pipe.reader.channel.buffer.length) :
      Forwards pipe pipe
  | sent (delivery : Delivery ρ) (held : pipe.forwarder.held = some delivery)
      (room : pipe.reader.channel.buffer.length < pipe.reader.channel.capacity) :
      Forwards pipe { pipe with
        forwarder := { pipe.forwarder with held := none }
        reader := { pipe.reader with
          channel := { pipe.reader.channel with
            buffer := pipe.reader.channel.buffer ++ [delivery] } } }
  | passed (reason : String) (rest : List (Arrival ρ)) (empty : pipe.forwarder.held = none)
      (first : pipe.forwarder.arrived = .failure reason :: rest) :
      Forwards pipe { pipe with forwarder := { pipe.forwarder with arrived := rest } }
  | took (delivery : Delivery ρ) (rest : List (Arrival ρ)) (empty : pipe.forwarder.held = none)
      (first : pipe.forwarder.arrived = .message delivery :: rest) :
      Forwards pipe { pipe with
        forwarder := { pipe.forwarder with arrived := rest, held := some delivery } }

theorem forward_cases (alone : Alone pipe) : Forwards pipe pipe.forward := by
  obtain ⟨⟨arrived, held, ended⟩, reader, stage, outcomes⟩ := pipe
  rw [Pipe.forward, Forwarder.step]
  cases held with
  | some delivery =>
    simp only [if_neg (Bool.eq_false_iff.mp alone.accepts)]
    by_cases room : reader.channel.hasRoom = true
    · have sent : (reader.channel.send 0 delivery).2 =
          { reader.channel with buffer := reader.channel.buffer ++ [delivery] } := by
        rw [Channel.send, if_neg (Bool.eq_false_iff.mp alone.accepts), if_pos room]
      simp only [if_pos room, sent]
      exact .sent delivery rfl (of_decide_eq_true room)
    · simp only [if_neg room]
      exact .full delivery rfl (Nat.le_of_not_lt fun less => room (decide_eq_true less))
  | none =>
    cases arrived with
    | nil => exact .idle rfl rfl
    | cons first rest =>
      cases first with
      | message delivery => exact .took delivery rest rfl rfl
      | failure reason => exact .passed reason rest rfl rfl

/-- What a step of the reader can do. -/
inductive Reads (pipe : Pipe ρ) : Pipe ρ → Prop where
  | entered (stage : pipe.stage = .entering) :
      Reads pipe { pipe with
        stage := .queueing
        reader := { pipe.reader with started := true, channelLine := [0] } }
  | queued (stage : pipe.stage = .queueing) : Reads pipe { pipe with stage := .listening }
  | waits (stage : pipe.stage = .listening) (empty : pipe.reader.channel.buffer = [])
      (fed : pipe.forwarder.isDone = false) : Reads pipe pipe
  | hungUp (stage : pipe.stage = .listening) (empty : pipe.reader.channel.buffer = [])
      (done : pipe.forwarder.isDone = true) :
      Reads pipe { pipe with
        stage := .entering
        reader := { pipe.reader with channelLine := [] }
        outcomes := pipe.outcomes ++ [.error .stopped] }
  | took (stage : pipe.stage = .listening) (delivery : Delivery ρ) (rest : List (Delivery ρ))
      (first : pipe.reader.channel.buffer = delivery :: rest) :
      Reads pipe { pipe with
        stage := .holding delivery
        reader := { pipe.reader with
          channelLine := []
          channel := { pipe.reader.channel with buffer := rest } } }
  | handed (delivery : Delivery ρ) (stage : pipe.stage = .holding delivery)
      (pending : List (Pending ρ)) :
      Reads pipe { pipe with
        stage := .entering
        reader := { pipe.reader with pending := pending }
        outcomes := pipe.outcomes ++ [pipe.reader.record delivery] }

theorem read_cases (alone : Alone pipe) : Reads pipe pipe.read := by
  obtain ⟨forwarder, reader, stage, outcomes⟩ := pipe
  have line := alone.ownLine
  rw [Pipe.read]
  cases stage with
  | entering =>
    simp only [Reader.stepRead, Reader.enterRead, if_neg (Bool.eq_false_iff.mp alone.running)]
    rw [show reader.channelLine = [] from line]
    exact .entered rfl
  | queueing =>
    simp only [Reader.stepRead, Reader.queueRead]
    rw [show reader.channelLine = [0] from line]
    exact .queued rfl
  | listening =>
    simp only [Reader.stepRead, Reader.listen, leaveChannel_alone reader line, Bool.false_eq_true,
      if_false]
    cases buffer : reader.channel.buffer with
    | nil =>
      have nothing : reader.channel.take = none := by rw [Channel.take, buffer]
      have hungUp : reader.hungUp (!forwarder.isDone) = forwarder.isDone := by
        simp [Reader.hungUp, show reader.channel.closed = false from alone.accepts,
          show reader.channel.line = [] from alone.unlined]
      simp only [nothing, hungUp]
      cases done : forwarder.isDone with
      | false => exact .waits rfl buffer done
      | true => exact .hungUp rfl buffer done
    | cons delivery rest =>
      have first : reader.channel.take =
          some (delivery, { reader.channel with buffer := rest }) := by
        have alone : reader.channel.line = [] := alone.unlined
        simp [Channel.take, Channel.moveUp, buffer, alone]
      simp only [first]
      exact .took rfl delivery rest buffer
  | holding delivery =>
    have handed := @Reads.handed _ ⟨forwarder, reader, .holding delivery, outcomes⟩ delivery rfl
    simp only [Reader.stepRead, Reader.handOut]
    cases known : reader.record delivery with
    | error error =>
      simp only [known] at handed
      exact handed reader.pending
    | ok record =>
      simp only [known] at handed
      simp only [track_pending]
      exact handed _

theorem isDone_iff {forwarder : Forwarder ρ} :
    forwarder.isDone = true ↔
      forwarder.ended = true ∧ forwarder.arrived = [] ∧ forwarder.held = none := by
  simp [Forwarder.isDone, and_assoc]

theorem arrive_ended (arrivals : List (Arrival ρ)) :
    (pipe.step (.arrive arrivals)).forwarder.ended = pipe.forwarder.ended := by
  rw [Pipe.step, Forwarder.receive]
  split <;> rfl

theorem forward_ended (alone : Alone pipe) :
    pipe.forward.forwarder.ended = pipe.forwarder.ended := by
  have forwarded := forward_cases alone
  generalize pipe.forward = after at forwarded
  cases forwarded <;> rfl

theorem read_ended (alone : Alone pipe) : pipe.read.forwarder.ended = pipe.forwarder.ended := by
  have read := read_cases alone
  generalize pipe.read = after at read
  cases read <;> rfl

end steps

/-- Nothing that has come is still to be looked at or handed out. -/
structure Settled (pipe : Pipe ρ) : Prop where
  drained : pipe.forwarder.arrived = []
  handed : underWay pipe = []

/-- The books of a pipe that began with the reader `opened`, after these messages have come: which
of them are handed out, and how many calls were told since that there are no more. -/
structure Books (opened : Reader ρ) (come handed : List (Delivery ρ)) (stops : Nat)
    (pipe : Pipe ρ) : Prop where
  alone : Alone pipe
  consumer : pipe.reader.consumer = opened.consumer
  subject : pipe.reader.subject = opened.subject
  capacity : pipe.reader.channel.capacity = opened.channel.capacity
  bounded : pipe.reader.channel.buffer.length ≤ opened.channel.capacity
  ordered : handed ++ underWay pipe = come
  outcomes : pipe.outcomes =
    handed.map opened.record ++ List.replicate stops (.error .stopped)
  stopped : 0 < stops → pipe.forwarder.ended = true ∧ Settled pipe

section books
variable {opened : Reader ρ} {come handed : List (Delivery ρ)} {stops : Nat} {pipe : Pipe ρ}

theorem underWay_eq_nil : underWay pipe = [] ↔
    inHand pipe.stage = [] ∧ pipe.reader.channel.buffer = [] ∧ pipe.forwarder.held = none ∧
      pipe.forwarder.arrived.filterMap message? = [] := by
  simp only [underWay, List.append_eq_nil_iff, Option.toList_eq_nil_iff, and_assoc]

theorem Settled.of_empty (drained : pipe.forwarder.arrived = [])
    (emptyHanded : inHand pipe.stage = []) (buffer : pipe.reader.channel.buffer = [])
    (held : pipe.forwarder.held = none) : Settled pipe :=
  ⟨drained, underWay_eq_nil.mpr ⟨emptyHanded, buffer, held, by rw [drained]; rfl⟩⟩

theorem Settled.emptyHanded (settled : Settled pipe) : inHand pipe.stage = [] :=
  (underWay_eq_nil.mp settled.handed).1

theorem Settled.buffer (settled : Settled pipe) : pipe.reader.channel.buffer = [] :=
  (underWay_eq_nil.mp settled.handed).2.1

theorem Settled.held (settled : Settled pipe) : pipe.forwarder.held = none :=
  (underWay_eq_nil.mp settled.handed).2.2.1

theorem Books.sameRecord (books : Books opened come handed stops pipe) :
    pipe.reader.record = opened.record := by
  funext message
  simp only [Reader.record, Reader.position, books.consumer, books.subject]

theorem Books.forward (books : Books opened come handed stops pipe) :
    Books opened come handed stops pipe.forward := by
  have forwarded := forward_cases books.alone
  have ordered := books.ordered
  generalize pipe.forward = after at forwarded
  cases forwarded with
  | idle | full => exact books
  | sent delivery held room =>
    exact { books with
      alone := { books.alone with }
      bounded := by
        rw [← books.capacity]
        simpa using Nat.succ_le_of_lt room
      ordered := by simpa [underWay, held] using ordered
      stopped := fun some => by
        have empty := (books.stopped some).2.held
        rw [held] at empty
        cases empty }
  | passed reason rest empty first =>
    exact { books with
      alone := { books.alone with }
      ordered := by
        simpa [underWay, first, List.filterMap_cons, message?] using ordered
      stopped := fun some => by
        have none := (books.stopped some).2.drained
        rw [first] at none
        cases none }
  | took delivery rest empty first =>
    exact { books with
      alone := { books.alone with }
      ordered := by simpa [underWay, first, empty, message?] using ordered
      stopped := fun some => by
        have none := (books.stopped some).2.drained
        rw [first] at none
        cases none }

/-- A step of the reader hands out one more message, or tells that there will be none, or leaves
what was handed out as it is. -/
theorem Books.read (books : Books opened come handed stops pipe) :
    ∃ more ends, Books opened come more ends pipe.read := by
  have read := read_cases books.alone
  have ordered := books.ordered
  generalize pipe.read = after at read
  cases read with
  | waits => exact ⟨handed, stops, books⟩
  | entered stage =>
    refine ⟨handed, stops, { books with
      alone := { books.alone with ownLine := rfl }
      ordered := by simpa [underWay, stage, inHand] using ordered
      stopped := fun some => ?_ }⟩
    obtain ⟨ended, settled⟩ := books.stopped some
    exact ⟨ended, .of_empty settled.drained rfl settled.buffer settled.held⟩
  | queued stage =>
    refine ⟨handed, stops, { books with
      alone := { books.alone with ownLine := by rw [books.alone.ownLine, stage]; rfl }
      ordered := by simpa [underWay, stage, inHand] using ordered
      stopped := fun some => ?_ }⟩
    obtain ⟨ended, settled⟩ := books.stopped some
    exact ⟨ended, .of_empty settled.drained rfl settled.buffer settled.held⟩
  | hungUp stage empty done =>
    obtain ⟨ended, drained, held⟩ := isDone_iff.mp done
    exact ⟨handed, stops + 1, { books with
      alone := { books.alone with ownLine := rfl }
      ordered := by simpa [underWay, stage, inHand] using ordered
      outcomes := by
        rw [books.outcomes, List.replicate_succ', List.append_assoc]
      stopped := fun _ => ⟨ended, .of_empty drained rfl empty held⟩ }⟩
  | took stage delivery rest first =>
    refine ⟨handed, stops, { books with
      alone := { books.alone with ownLine := rfl }
      bounded := ?_
      ordered := by simpa [underWay, stage, inHand, first] using ordered
      stopped := fun some => ?_ }⟩
    · have bounded := books.bounded
      rw [first] at bounded
      exact Nat.le_of_succ_le bounded
    · have empty := (books.stopped some).2.buffer
      rw [first] at empty
      cases empty
  | handed delivery stage pending =>
    -- A call that returns after the last message is handed out has none in hand.
    have none : stops = 0 := Nat.eq_zero_of_not_pos fun some => by
      have empty := (books.stopped some).2.emptyHanded
      rw [stage] at empty
      cases empty
    subst none
    refine ⟨handed ++ [delivery], 0, { books with
      alone := { books.alone with ownLine := by rw [books.alone.ownLine, stage]; rfl }
      ordered := by simpa [underWay, stage, inHand] using ordered
      outcomes := ?_
      stopped := fun some => absurd some (Nat.lt_irrefl 0) }⟩
    rw [books.outcomes, books.sameRecord]
    simp

/-- What arrives is the last that has come, unless the subscription has ended. -/
theorem Books.arrive (books : Books opened come handed stops pipe) (arrivals : List (Arrival ρ)) :
    Books opened
      (come ++ if pipe.forwarder.ended then [] else arrivals.filterMap message?) handed stops
      (pipe.step (.arrive arrivals)) := by
  rw [Pipe.step, Forwarder.receive]
  by_cases ended : pipe.forwarder.ended = true
  · rw [if_pos ended, if_pos ended, List.append_nil]
    exact books
  · rw [if_neg ended, if_neg ended]
    exact { books with
      alone := { books.alone with }
      ordered := by
        rw [← books.ordered]
        simp [underWay]
      stopped := fun some => absurd (books.stopped some).1 ended }

theorem Books.finish (books : Books opened come handed stops pipe) :
    Books opened come handed stops (pipe.step .finish) :=
  { books with
    alone := { books.alone with }
    stopped := fun some => ⟨rfl, { (books.stopped some).2 with }⟩ }

/-- Whatever happens to a pipe, and in whatever order, keeps its books. -/
theorem Books.run (books : Books opened come handed stops pipe) (acts : List (Act ρ)) :
    ∃ more ends, Books opened
      (come ++ if pipe.forwarder.ended then [] else brought acts) more ends (pipe.run acts) := by
  induction acts generalizing pipe come handed stops with
  | nil =>
    rw [brought, ite_self, List.append_nil]
    exact ⟨handed, stops, books⟩
  | cons act rest ih =>
    rw [Pipe.run_cons]
    cases act with
    | arrive arrivals =>
      obtain ⟨more, ends, kept⟩ := ih (books.arrive arrivals)
      refine ⟨more, ends, ?_⟩
      rw [arrive_ended] at kept
      cases ended : pipe.forwarder.ended <;> simpa [ended, brought] using kept
    | finish =>
      obtain ⟨more, ends, kept⟩ := ih books.finish
      refine ⟨more, ends, ?_⟩
      have ended : (pipe.step .finish).forwarder.ended = true := rfl
      rw [ended] at kept
      simpa [brought] using kept
    | forward =>
      obtain ⟨more, ends, kept⟩ := ih books.forward
      rw [forward_ended books.alone] at kept
      exact ⟨more, ends, kept⟩
    | read =>
      obtain ⟨_, _, read⟩ := books.read
      obtain ⟨more, ends, kept⟩ := ih read
      rw [read_ended books.alone] at kept
      exact ⟨more, ends, kept⟩

/-- A subscription ends once it is told to, and in no other way. -/
theorem Books.run_ended (books : Books opened come handed stops pipe) (acts : List (Act ρ)) :
    (pipe.run acts).forwarder.ended = true ↔ pipe.forwarder.ended = true ∨ .finish ∈ acts := by
  induction acts generalizing pipe come handed stops with
  | nil => simp [Pipe.run]
  | cons act rest ih =>
    rw [Pipe.run_cons]
    cases act with
    | arrive arrivals => simp [ih (books.arrive arrivals), arrive_ended]
    | finish => exact iff_of_true ((ih books.finish).mpr (.inl rfl)) (.inr (.head rest))
    | forward => simp [ih books.forward, Pipe.step, forward_ended books.alone]
    | read =>
      obtain ⟨_, _, read⟩ := books.read
      simp [ih read, Pipe.step, read_ended books.alone]

/-- What was taken out of the subscription and not from the channel: what the channel has room for,
and what the forwarder waits with. -/
theorem Books.room (books : Books opened come handed stops pipe) :
    pipe.reader.channel.buffer.length + pipe.forwarder.held.toList.length ≤
      opened.channel.capacity + 1 :=
  Nat.add_le_add books.bounded (by cases pipe.forwarder.held <;> simp)

end books

end StreamBridge.Proofs.ForwardedMessages
