import StreamBridge.Destination.Writer
import StreamBridge.Proofs.BrokerRequests

/-! What a writer leaves at its broker. Each write that succeeds adds one message to the end of what
is published, and nothing else adds any. The writer's connection is closed by the first call that
asks for it; from then on the broker refuses every write. -/

namespace StreamBridge.Proofs.WriterLog
open BrokerRequests

/-- Something that happens to a writer and its broker. -/
inductive Act where
  | write (record : Record)
  | close
  | setFailing (action : BrokerAction) (fails : Bool)
deriving DecidableEq

/-- A writer over its own broker. `writes` lists what was asked to be written and what came of
it. -/
structure Session where
  broker : MemoryBroker
  writer : Writer
  writes : List (Record × Except WriteError Unit)

/-- What a write publishes: the new data of a record, with the same options each time. -/
def entry (params : DestinationParams) (record : Record) : Published :=
  ⟨params.subject, record.payload.after, params.options⟩

namespace Session

def start (writer : Writer) (broker : MemoryBroker) : Session := ⟨broker, writer, []⟩

def write (record : Record) (session : Session) : Except WriteError Unit × Session :=
  let (result, broker) := (session.writer.write record).make session.broker
  (result, { session with broker := broker, writes := session.writes ++ [(record, result)] })

def close (session : Session) : Except WriteError Unit × Session :=
  let ((result, writer), broker) := session.writer.close session.broker
  (result, { session with broker := broker, writer := writer })

/-- The session after something has happened, with what the caller learns. -/
def step (session : Session) : Act → Except WriteError Unit × Session
  | .write record => session.write record
  | .close => session.close
  | .setFailing action fails =>
    (.ok (), { session with broker := session.broker.setFailing action fails })

def run (session : Session) (acts : List Act) : Session :=
  acts.foldl (fun session act => (session.step act).2) session

/-- The records whose writes succeeded, in order. -/
def written (session : Session) : List Record :=
  session.writes.filterMap fun write => write.2.toOption.map fun _ => write.1

end Session

/-- Whether publishes are told to fail after these acts: as the last of them that says so. -/
def refusing : Bool → List Act → Bool
  | fails, [] => fails
  | _, .setFailing .publish fails :: rest => refusing fails rest
  | fails, _ :: rest => refusing fails rest

/-- Why a write is refused, if it is: a writer for batches refuses by itself, and for any other the
broker's first reason counts. -/
def refusal? (batchSize : Nat) (closed refuses : Bool) : Option WriteError :=
  if 1 < batchSize then some (.batched batchSize)
  else if closed then some (.publish .closed)
  else if refuses then some (.publish (.failed .publish "mock publish failure"))
  else none

theorem write_memory (record : Record) (writer : Writer) (broker : MemoryBroker) :
    (writer.write record).make broker =
      match refusal? writer.batchSize broker.isClosed (broker.fails .publish) with
      | some error => (.error error, broker)
      | none => (.ok (), { broker with
        published := broker.published ++
          [⟨writer.subject, record.payload.after, writer.options⟩] }) := by
  unfold Writer.write refusal?
  split
  next => rfl
  next =>
    refine (make_mapError _ _ _).trans ?_
    rw [make_publish]
    cases broker.isClosed with
    | true => rfl
    | false => cases broker.fails .publish <;> rfl

/-- A writer takes its connection with it into the first close. -/
theorem close_memory (writer : Writer) (broker : MemoryBroker) :
    writer.close broker =
      ((.ok (), { writer with connected := false }),
        { broker with closings := broker.closings + if writer.connected then 1 else 0 }) := by
  obtain ⟨subject, batchSize, options, connected⟩ := writer
  cases connected <;> rfl

theorem refusing_append (fails : Bool) (acts more : List Act) :
    refusing fails (acts ++ more) = refusing (refusing fails acts) more := by
  induction acts generalizing fails with
  | nil => rfl
  | cons act rest ih =>
    cases act with
    | setFailing action value => cases action <;> exact ih _
    | write | close => exact ih _

/-- The books of a writer after these acts. -/
structure Kept (params : DestinationParams) (origin : MemoryBroker) (past : List Act)
    (session : Session) : Prop where
  writer : session.writer =
    ⟨params.subject, params.batchSize, params.options, decide (.close ∉ past)⟩
  published : session.broker.published = origin.published ++ session.written.map (entry params)
  closings : session.broker.closings = origin.closings + if .close ∈ past then 1 else 0
  refuses : session.broker.fails .publish = refusing (origin.fails .publish) past
  batched : 1 < params.batchSize → session.written = []

variable {params : DestinationParams} {origin : MemoryBroker} {past : List Act} {session : Session}

theorem Kept.closed (kept : Kept params origin past session) :
    session.broker.isClosed = (origin.isClosed || decide (.close ∈ past)) := by
  rw [MemoryBroker.isClosed, MemoryBroker.isClosed, kept.closings]
  by_cases closed : .close ∈ past <;> simp [closed]

/-- What a write can do: it is refused, which is only noted, or it publishes. -/
inductive Wrote (params : DestinationParams) (origin : MemoryBroker) (past : List Act)
    (session : Session) (record : Record) : Except WriteError Unit × Session → Prop where
  | refused (error : WriteError)
      (reason : refusal? params.batchSize (origin.isClosed || decide (.close ∈ past))
        (refusing (origin.fails .publish) past) = some error) :
      Wrote params origin past session record (.error error,
        { session with writes := session.writes ++ [(record, .error error)] })
  | published
      (agrees : refusal? params.batchSize (origin.isClosed || decide (.close ∈ past))
        (refusing (origin.fails .publish) past) = none) :
      Wrote params origin past session record (.ok (),
        { session with
          broker := { session.broker with
            published := session.broker.published ++ [entry params record] }
          writes := session.writes ++ [(record, .ok ())] })

theorem write_cases (kept : Kept params origin past session) (record : Record) :
    Wrote params origin past session record (session.step (.write record)) := by
  have made := write_memory record session.writer session.broker
  have same : session.writer.batchSize = params.batchSize ∧
      (⟨session.writer.subject, record.payload.after, session.writer.options⟩ : Published) =
        entry params record := by
    rw [kept.writer]
    exact ⟨rfl, rfl⟩
  rw [same.1, same.2, kept.refuses, kept.closed] at made
  rw [Session.step, Session.write, made]
  cases reason : refusal? params.batchSize (origin.isClosed || decide (.close ∈ past))
      (refusing (origin.fails .publish) past) with
  | some error => exact .refused error reason
  | none => exact .published reason

theorem start_kept (params : DestinationParams) (origin : MemoryBroker) :
    Kept params origin []
      (.start ⟨params.subject, params.batchSize, params.options, true⟩ origin) where
  writer := rfl
  published := (List.append_nil _).symm
  closings := rfl
  refuses := rfl
  batched := fun _ => rfl

/-- A write leaves everything but what is published as it was. -/
theorem write_kept (kept : Kept params origin past session) (record : Record) :
    Kept params origin (past ++ [.write record]) (session.step (.write record)).2 := by
  have wrote := write_cases kept record
  have same : .close ∈ past ++ [.write record] ↔ .close ∈ past := by simp
  have refuses : session.broker.fails .publish =
      refusing (origin.fails .publish) (past ++ [.write record]) := by
    rw [refusing_append]
    exact kept.refuses
  generalize session.step (.write record) = result at wrote
  cases wrote with
  | refused error =>
    exact {
      writer := by simp only [kept.writer, same]
      published := by simpa [Session.written, Except.toOption] using kept.published
      closings := by simp only [kept.closings, same]
      refuses := refuses
      batched := fun many => by
        simpa [Session.written, Except.toOption] using kept.batched many }
  | published agrees =>
    exact {
      writer := by simp only [kept.writer, same]
      published := by simp [Session.written, Except.toOption, kept.published]
      closings := by simp only [kept.closings, same]
      refuses := refuses
      batched := fun many => by
        rw [refusal?, if_pos many] at agrees
        cases agrees }

theorem step_kept (kept : Kept params origin past session) (act : Act) :
    Kept params origin (past ++ [act]) (session.step act).2 := by
  cases act with
  | write record => exact write_kept kept record
  | close =>
    rw [Session.step, Session.close, close_memory]
    exact {
      writer := by simp [kept.writer]
      published := kept.published
      closings := by
        simp only [kept.closings, kept.writer]
        by_cases closed : .close ∈ past <;> simp [closed]
      refuses := by
        rw [refusing_append]
        exact kept.refuses
      batched := kept.batched }
  | setFailing action fails =>
    have same : .close ∈ past ++ [.setFailing action fails] ↔ .close ∈ past := by simp
    exact {
      writer := by simp only [Session.step, kept.writer, same]
      published := kept.published
      closings := by simp only [same]; exact kept.closings
      refuses := by
        rw [refusing_append, Session.step, setFailing_fails, kept.refuses]
        cases action <;> rfl
      batched := kept.batched }

theorem run_kept (kept : Kept params origin past session) (acts : List Act) :
    Kept params origin (past ++ acts) (session.run acts) := by
  induction acts generalizing past session with
  | nil => simpa [Session.run] using kept
  | cons act rest ih =>
    rw [List.append_cons]
    exact ih (step_kept kept act)

theorem write_refused (kept : Kept params origin past session) (record : Record)
    {error : WriteError}
    (reason : refusal? params.batchSize (origin.isClosed || decide (.close ∈ past))
      (refusing (origin.fails .publish) past) = some error) :
    (session.step (.write record)).1 = .error error := by
  have wrote := write_cases kept record
  generalize session.step (.write record) = result at wrote
  cases wrote with
  | refused other same =>
    rw [reason] at same
    exact congrArg _ (Option.some.inj same).symm
  | published agrees =>
    rw [reason] at agrees
    cases agrees

theorem refusal_none {batchSize : Nat} {closed refuses : Bool} :
    refusal? batchSize closed refuses = none ↔
      batchSize ≤ 1 ∧ closed = false ∧ refuses = false := by
  unfold refusal?
  by_cases many : 1 < batchSize
  · simp [many, Nat.not_le_of_lt many]
  · cases closed <;> cases refuses <;> simp [many, Nat.le_of_not_lt many]

/-- Whatever a caller does with a writer, and whatever its broker is told: what is published are the
new data of the records whose writes succeeded, in order, each with the subject and the options that
the writer was made with. A write succeeds if and only if it asks for no batch, the connection has
not been closed and publishes are not told to fail, and then adds its own message; one that fails
says why and leaves the broker and the writer as they were. A writer for batches refuses every write
and publishes nothing, and a closed one refuses every write as closed. Closing succeeds each time,
and closes the connection once. -/
theorem published_as_written (params : DestinationParams) (origin : MemoryBroker)
    (acts : List Act) :
    ∃ writer, (Writer.attach params).make origin = (.ok writer, origin) ∧
      let session := (Session.start writer origin).run acts
      session.broker.published = origin.published ++ session.written.map (entry params) ∧
      (∀ record,
        ((session.step (.write record)).1 = .ok () ↔ params.batchSize ≤ 1 ∧
          origin.isClosed = false ∧ .close ∉ acts ∧
          refusing (origin.fails .publish) acts = false) ∧
        ((session.step (.write record)).1 = .ok () →
          (session.step (.write record)).2.broker =
            { session.broker with
              published := session.broker.published ++ [entry params record] }) ∧
        ∀ error, (session.step (.write record)).1 = .error error →
          (session.step (.write record)).2.broker = session.broker ∧
          (session.step (.write record)).2.writer = session.writer) ∧
      (1 < params.batchSize → session.broker.published = origin.published ∧
        ∀ record, (session.step (.write record)).1 = .error (.batched params.batchSize)) ∧
      (params.batchSize ≤ 1 → .close ∈ acts →
        ∀ record, (session.step (.write record)).1 = .error (.publish .closed)) ∧
      (session.step .close).1 = .ok () ∧
      session.broker.closings = origin.closings + if .close ∈ acts then 1 else 0 := by
  refine ⟨_, rfl, ?_⟩
  have kept := run_kept (start_kept params origin) acts
  rw [List.nil_append] at kept
  generalize Session.run _ acts = session at kept
  refine ⟨kept.published, fun record => ?_, fun many => ⟨?_, fun record => ?_⟩,
    fun single closed record => ?_, ?_, kept.closings⟩
  · have wrote := write_cases kept record
    have free := @refusal_none params.batchSize (origin.isClosed || decide (.close ∈ acts))
      (refusing (origin.fails .publish) acts)
    simp only [Bool.or_eq_false_iff, decide_eq_false_iff_not, and_assoc] at free
    generalize session.step (.write record) = result at wrote
    cases wrote with
    | refused error reason =>
      rw [reason] at free
      exact ⟨iff_of_false nofun fun agrees => (nomatch free.mpr agrees), nofun,
        fun _ _ => ⟨rfl, rfl⟩⟩
    | published agrees => exact ⟨iff_of_true rfl (free.mp agrees), fun _ => rfl, nofun⟩
  · rw [kept.published, kept.batched many]
    exact List.append_nil _
  · exact write_refused kept record (if_pos many)
  · refine write_refused kept record ?_
    rw [refusal?, if_neg (Nat.not_lt_of_le single), if_pos (by simp [closed])]
  · rw [Session.step, Session.close, close_memory]

end StreamBridge.Proofs.WriterLog
