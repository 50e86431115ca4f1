import StreamBridge.Broker.Memory
import StreamBridge.Source.Stop

/-! One reader, shared by any number of calls at once. A call takes a step when its turn comes,
whatever the others have done since its last one. Between any two steps a message may come, and the
broker may change, so that its next answer can be any.

The list of pending records only shows what is left of it. A history stands beside it: what was
taken from the channel, what was noted as pending, and how each noted record has left. A noted
record is known by how many were noted before it. -/

namespace StreamBridge.Proofs.SharedReader

inductive Task where
  | read
  | acknowledge (token : Token)
  | stop

inductive Result where
  | read (result : Except SourceError Record)
  | acknowledged (result : Except SourceError Unit)
  | stopped (result : Except SourceError Unit)

/-- How far a call has got. `entry` is the noted record that an acknowledgement has compared its
token with. -/
inductive Call (ρ : Type) where
  | idle
  | reading (stage : ReadStage ρ)
  | acknowledging (token : Token) (entry : Nat) (stage : AckStage ρ)
  | stopping (stage : StopStage)
  | returned (result : Result)

/-- Something that happens to a shared reader. A number names one call only. -/
inductive Act (β ρ : Type) where
  | call (number : Nat) (task : Task)
  | step (number : Nat) (now : Duration) (cancelled : Bool)
  | deliver (sender : Nat) (message : Delivery ρ)
  | withdraw (sender : Nat)
  | change (broker : β → β)

variable {β ρ : Type}

def Act.number? : Act β ρ → Option Nat
  | .call number _ | .step number _ _ => some number
  | .deliver _ _ | .withdraw _ | .change _ => none

/-- What a call does at once: it looks whether the reader is stopped. One that may go on joins its
line by a later step, so that anything may happen in between. -/
def letIn (task : Task) (reader : Reader ρ) : Call ρ × Reader ρ :=
  match task with
  | .read =>
    if reader.stopped then (.returned (.read (.error .stopped)), reader)
    else (.reading .entering, { reader with started := true })
  | .acknowledge token =>
    if reader.stopped then (.returned (.acknowledged (.error .stopped)), reader)
    else if reader.tracks then (.acknowledging token 0 .entering, reader)
    else (.returned (.acknowledged (.ok ())), reader)
  | .stop => (.stopping .entering, reader)

def joinChannel (number : Nat) (reader : Reader ρ) : Reader ρ :=
  { reader with channelLine := reader.channelLine ++ [number] }

def joinGate (number : Nat) (reader : Reader ρ) : Reader ρ :=
  { reader with gateLine := reader.gateLine ++ [number] }

/-- One step of a read that was let in. -/
def goOnReading (number : Nat) (cancelled fed : Bool) (stage : ReadStage ρ) (reader : Reader ρ) :
    Reader.ReadProgress ρ × Reader ρ :=
  match stage with
  | .entering => (.next .queueing, joinChannel number reader)
  | stage => reader.stepRead number cancelled fed stage

def goOnAcknowledging [Broker β ρ] (number : Nat) (token : Token) (now : Duration)
    (stage : AckStage ρ) (reader : Reader ρ) (broker : β) :
    (Reader.AckProgress ρ × Reader ρ) × β :=
  match stage with
  | .entering => ((.next .queueing, joinGate number reader), broker)
  | stage => reader.stepAck number token now stage broker

theorem enterRead_letIn (number : Nat) (reader : Reader ρ) :
    reader.enterRead number =
      match letIn .read reader with
      | (.reading .entering, reader) => (.next .queueing, joinChannel number reader)
      | (_, reader) => (.finished (.error .stopped), reader) := by
  unfold Reader.enterRead letIn
  split <;> rfl

theorem enterAck_letIn (number : Nat) (token : Token) (reader : Reader ρ) :
    reader.enterAck number =
      match letIn (.acknowledge token) reader with
      | (.acknowledging _ _ .entering, reader) => (.next .queueing, joinGate number reader)
      | (.returned (.acknowledged result), reader) => (.finished result, reader)
      | (_, reader) => (.waiting, reader) := by
  unfold Reader.enterAck letIn
  by_cases stopped : reader.stopped = true
  · simp only [if_pos stopped]
  · simp only [if_neg stopped]
    split <;> rfl

/-- How far a call has got with a step from a stage. -/
def Call.ofRead (stage : ReadStage ρ) : Reader.ReadProgress ρ → Call ρ
  | .next stage => .reading stage
  | .waiting => .reading stage
  | .finished result => .returned (.read result)

@[inherit_doc Call.ofRead]
def Call.ofAcknowledge (token : Token) (entry : Nat) (stage : AckStage ρ) :
    Reader.AckProgress ρ → Call ρ
  | .next stage => .acknowledging token entry stage
  | .waiting => .acknowledging token entry stage
  | .finished result => .returned (.acknowledged result)

@[inherit_doc Call.ofRead]
def Call.ofStop (stage : StopStage) : Reader.StopProgress → Call ρ
  | .next stage => .stopping stage
  | .waiting => .stopping stage
  | .finished result => .returned (.stopped result)

/-- A reader and the calls on it, with their history. `agreed` lists the records whose
acknowledgements the broker has taken, `popped` those that an acknowledgement has taken off the
list, `forgotten` those that a stop has. -/
structure Shared (β ρ : Type) where
  broker : β
  reader : Reader ρ
  calls : Nat → Call ρ
  taken : List (Delivery ρ)
  noted : List (Pending ρ)
  agreed : List Nat
  popped : List Nat
  forgotten : List Nat

namespace Shared

def start (reader : Reader ρ) (broker : β) : Shared β ρ where
  broker := broker
  reader := reader
  calls := fun _ => .idle
  taken := []
  noted := []
  agreed := []
  popped := []
  forgotten := []

def put (number : Nat) (call : Call ρ) (shared : Shared β ρ) : Shared β ρ :=
  { shared with calls := fun other => if other = number then call else shared.calls other }

@[simp] theorem put_same (number : Nat) (call : Call ρ) (shared : Shared β ρ) :
    (shared.put number call).calls number = call := if_pos rfl

theorem put_other {number other : Nat} (call : Call ρ) (shared : Shared β ρ)
    (apart : other ≠ number) : (shared.put number call).calls other = shared.calls other :=
  if_neg apart

theorem put_under {number : Nat} {call : Call ρ} {shared : Shared β ρ}
    (under : shared.calls number = call) : shared.put number call = shared := by
  have same : (shared.put number call).calls = shared.calls := by
    funext other
    by_cases apart : other = number
    · rw [apart, put_same, under]
    · exact put_other call shared apart
  exact congrArg (fun calls => { shared with calls := calls }) same

/-- How many of the noted records are pending no more. -/
def gone (shared : Shared β ρ) : Nat := shared.noted.length - shared.reader.pending.length

/-- The records that a step to `after` takes off the front of the list. -/
def departed (shared : Shared β ρ) (after : Reader ρ) : List Nat :=
  List.range' shared.gone (shared.reader.pending.length - after.pending.length)

def enter (number : Nat) (task : Task) (shared : Shared β ρ) : Shared β ρ :=
  match shared.calls number with
  | .idle =>
    let (call, reader) := letIn task shared.reader
    { shared.put number call with reader := reader }
  | _ => shared

def taking : Reader.ReadProgress ρ → List (Delivery ρ)
  | .next (.holding message) => [message]
  | _ => []

/-- Notes what a read has come to with a step. -/
def afterRead (number : Nat) (stage : ReadStage ρ) (shared : Shared β ρ) :
    Reader.ReadProgress ρ × Reader ρ → Shared β ρ
  | (progress, reader) =>
    { shared.put number (.ofRead stage progress) with
      reader := reader
      taken := shared.taken ++ taking progress
      noted := shared.noted ++ reader.pending.drop shared.reader.pending.length }

def read [Broker β ρ] (number : Nat) (cancelled : Bool) (stage : ReadStage ρ)
    (shared : Shared β ρ) : Shared β ρ :=
  let fed := Broker.feeds shared.broker shared.reader.port
  shared.afterRead number stage (goOnReading number cancelled fed stage shared.reader)

/-- The record that an acknowledgement is about: what is first on the list when it compares. -/
def about (entry : Nat) (stage : AckStage ρ) (shared : Shared β ρ) : Nat :=
  match stage with
  | .comparing => shared.gone
  | _ => entry

def agreeing (entry : Nat) : AckStage ρ → Reader.AckProgress ρ → List Nat
  | .asking _ _, .next _ => [entry]
  | _, _ => []

def afterAcknowledge (number : Nat) (token : Token) (entry : Nat) (stage : AckStage ρ)
    (shared : Shared β ρ) : (Reader.AckProgress ρ × Reader ρ) × β → Shared β ρ
  | ((progress, reader), broker) =>
    { shared.put number (.ofAcknowledge token (shared.about entry stage) stage progress) with
      broker := broker
      reader := reader
      agreed := shared.agreed ++ agreeing entry stage progress
      popped := shared.popped ++ shared.departed reader }

def acknowledge [Broker β ρ] (number : Nat) (token : Token) (entry : Nat) (now : Duration)
    (stage : AckStage ρ) (shared : Shared β ρ) : Shared β ρ :=
  shared.afterAcknowledge number token entry stage
    (goOnAcknowledging number token now stage shared.reader shared.broker)

def afterStop (number : Nat) (stage : StopStage) (shared : Shared β ρ) :
    (Reader.StopProgress × Reader ρ) × β → Shared β ρ
  | ((progress, reader), broker) =>
    { shared.put number (.ofStop stage progress) with
      broker := broker
      reader := reader
      forgotten := shared.forgotten ++ shared.departed reader }

def stop [Broker β ρ] (number : Nat) (stage : StopStage) (shared : Shared β ρ) : Shared β ρ :=
  shared.afterStop number stage (shared.reader.stepStop number stage shared.broker)

def setChannel (channel : Channel (Delivery ρ)) (shared : Shared β ρ) : Shared β ρ :=
  { shared with reader := { shared.reader with channel := channel } }

/-- The shared reader after something has happened. A call that is not under way takes no step. -/
def step [Broker β ρ] (shared : Shared β ρ) : Act β ρ → Shared β ρ
  | .call number task => shared.enter number task
  | .step number now cancelled =>
    match shared.calls number with
    | .reading stage => shared.read number cancelled stage
    | .acknowledging token entry stage => shared.acknowledge number token entry now stage
    | .stopping stage => shared.stop number stage
    | .idle | .returned _ => shared
  | .deliver sender message => shared.setChannel (shared.reader.channel.send sender message).2
  | .withdraw sender => shared.setChannel (shared.reader.channel.leave sender)
  | .change broker => { shared with broker := broker shared.broker }

def run [Broker β ρ] (shared : Shared β ρ) (acts : List (Act β ρ)) : Shared β ρ :=
  acts.foldl step shared

theorem run_cons [Broker β ρ] (shared : Shared β ρ) (act : Act β ρ) (rest : List (Act β ρ)) :
    shared.run (act :: rest) = (shared.step act).run rest := rfl

theorem run_invariant [Broker β ρ] (invariant : Shared β ρ → Prop)
    (kept : ∀ shared act, invariant shared → invariant (shared.step act)) {shared : Shared β ρ}
    (holds : invariant shared) (acts : List (Act β ρ)) : invariant (shared.run acts) := by
  induction acts generalizing shared with
  | nil => exact holds
  | cons act rest ih => exact ih (kept shared act holds)

end Shared

/-- A consumer whose records wait for acknowledgements. -/
def tracking : Consumer :=
  ⟨"stream", "durable", { (default : ConsumerConfig) with ackPolicy := .explicit }⟩

def oneRoom : SourceParams := ⟨1, "durable", "stream", "subject", .empty, .all, .explicit⟩

/-- A reader over a broker in memory that nothing has happened to. -/
def untouched : Shared MemoryBroker UInt64 := .start (Reader.fresh 1 tracking oneRoom) .fresh

def seventh : Delivery UInt64 := MemoryBroker.message 7 .epoch [0x61]

end StreamBridge.Proofs.SharedReader
