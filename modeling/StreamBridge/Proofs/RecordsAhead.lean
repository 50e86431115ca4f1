import StreamBridge.Proofs.CancelledReads
import StreamBridge.Proofs.ChannelOrder
import StreamBridge.Proofs.DeliveryOrder

/-! Looking whether a record is there, on one reader over a broker in memory. What a look says is
what a read would find, whenever no call is under way; and a look is no part of what happens: the
same run without it comes to the same state, but for whether the reader has been started. -/

namespace StreamBridge.Proofs.RecordsAhead
open SharedReader SharedSteps CancelledReads ChannelOrder
open DeliveryOrder (Readable)

/-- Something that happens to a reader over a broker in memory. A call that is given up takes no
further step. -/
inductive Doing where
  | call (number : Nat) (task : Task)
  | step (number : Nat) (now : Duration) (cancelled : Bool)
  | giveUp (number : Nat)
  | deliver (sender : Nat) (sequence : UInt64) (timestamp : Timestamp) (payload : Bytes)
  | withdraw (sender : Nat)
  | change (broker : MemoryBroker → MemoryBroker)
  | look

def Doing.looks : Doing → Bool
  | .look => true
  | _ => false

variable {β ρ : Type}

/-- Whether a call can be given up: it goes on only when it is woken. A read that has taken a
message, and an acknowledgement that the broker has agreed to, come to their ends at once. -/
def waits : Call ρ → Bool
  | .idle | .returned _ | .reading (.holding _) | .acknowledging _ _ .popping => false
  | .reading _ | .acknowledging _ _ _ | .stopping _ => true

/-- A call is given up, and leaves the lines that it stands in. -/
def giveUp (number : Nat) (shared : Shared β ρ) : Shared β ρ :=
  if waits (shared.calls number) then
    { shared.put number .idle with
      reader := (shared.reader.leaveChannel number).leaveGate number }
  else shared

/-- A look, of which only the state is kept. -/
def look (shared : Shared β ρ) : Shared β ρ := { shared with reader := shared.reader.hasNext.2 }

def happen (shared : Shared MemoryBroker UInt64) : Doing → Shared MemoryBroker UInt64
  | .call number task => shared.step (.call number task)
  | .step number now cancelled => shared.step (.step number now cancelled)
  | .giveUp number => giveUp number shared
  | .deliver sender sequence timestamp payload =>
    shared.step (.deliver sender (MemoryBroker.message sequence timestamp payload))
  | .withdraw sender => shared.step (.withdraw sender)
  | .change broker => shared.step (.change broker)
  | .look => look shared

def goOn (shared : Shared MemoryBroker UInt64) : List Doing → Shared MemoryBroker UInt64
  | [] => shared
  | doing :: rest => goOn (happen shared doing) rest

/-- What somebody who delivers learns: whether a subscription is live, and what the channel does
with the message. -/
def told (shared : Shared MemoryBroker UInt64) : Doing → Option (Bool × Sent)
  | .deliver sender sequence timestamp payload =>
    some (Broker.feeds shared.broker shared.reader.port, (shared.reader.channel.send sender
      (MemoryBroker.message sequence timestamp payload)).1)
  | _ => none

/-- What all who deliver learn in the course of a run. -/
def toldAll (shared : Shared MemoryBroker UInt64) : List Doing → List (Bool × Sent)
  | [] => []
  | doing :: rest => (told shared doing).toList ++ toldAll (happen shared doing) rest

/-- Whether no call is under way. -/
def AtRest (shared : Shared β ρ) : Prop :=
  ∀ number, shared.calls number = .idle ∨ ∃ result, shared.calls number = .returned result

/-- Whether a call stands in the channel's line. -/
def wantsChannel : Call ρ → Bool
  | .reading .queueing | .reading .listening | .stopping .closing => true
  | _ => false

/-- What holds of a reader over a broker in memory at all times: only calls that want the channel
stand in its line, and what is in the channel says where it stands in its stream. -/
structure Served (shared : Shared β ρ) : Prop where
  wanted : ∀ number ∈ shared.reader.channelLine, wantsChannel (shared.calls number) = true
  readable : ∀ message ∈ contents shared.reader.channel, Readable message

section served
variable {shared after : Shared β ρ} {number : Nat} {call : Call ρ}

/-- A call moves, and where it stands in the channel's line it wants the channel. -/
theorem Served.moved (served : Served shared)
    (calls : after.calls = (shared.put number call).calls)
    (line : ∀ other ∈ after.reader.channelLine, other ≠ number →
      other ∈ shared.reader.channelLine)
    (own : number ∈ after.reader.channelLine → wantsChannel call = true)
    (channel : ∀ message ∈ contents after.reader.channel,
      message ∈ contents shared.reader.channel) : Served after := by
  refine ⟨fun other inside => ?_, fun message inside => served.readable _ (channel _ inside)⟩
  rw [calls]
  by_cases same : other = number
  · subst same
    rw [Shared.put_same]
    exact own inside
  · rw [Shared.put_other call shared same]
    exact served.wanted other (line other inside same)

/-- A call that is not in the channel's line moves somewhere else. -/
theorem Served.aside (served : Served shared)
    (apart : wantsChannel (shared.calls number) = false)
    (calls : after.calls = (shared.put number call).calls)
    (line : after.reader.channelLine = shared.reader.channelLine)
    (channel : after.reader.channel = shared.reader.channel) : Served after := by
  refine served.moved calls (fun other inside _ => line ▸ inside) (fun inside => ?_)
    fun message inside => channel ▸ inside
  have wanted := served.wanted number (line ▸ inside)
  exact absurd (apart.symm.trans wanted) nofun

/-- A call that leaves the channel's line may go anywhere. -/
theorem Served.left (served : Served shared)
    (calls : after.calls = (shared.put number call).calls)
    (line : after.reader.channelLine = shared.reader.channelLine.filter (· != number))
    (channel : ∀ message ∈ contents after.reader.channel,
      message ∈ contents shared.reader.channel) : Served after := by
  refine served.moved calls (fun other inside _ => ?_) (fun inside => ?_) channel
  · rw [line] at inside
    exact (List.mem_filter.mp inside).1
  · rw [line] at inside
    simp at inside

theorem close_contents (channel : Channel (Delivery ρ)) :
    ∀ message ∈ contents channel.close, message ∈ contents channel := by
  intro message inside
  simp only [contents, Channel.close, List.map_nil, List.append_nil] at inside
  exact List.mem_append_left _ inside

theorem Served.read {stage : ReadStage ρ} (served : Served shared)
    (under : shared.calls number = .reading stage) (reads : Reads shared number stage after) :
    Served after := by
  cases reads with
  | queued | waited => exact served
  | joined =>
    exact served.moved rfl (fun other inside apart => by simpa [joinChannel, apart] using inside)
      (fun _ => rfl) fun _ => id
  | reached => exact served.moved rfl (fun _ inside _ => inside) (fun _ => rfl) fun _ => id
  | gaveUp => exact served.left rfl rfl fun _ => id
  | took message channel taken =>
    refine served.left rfl rfl fun other inside => ?_
    rw [(take_contents taken).1]
    exact List.mem_cons_of_mem _ inside
  | dropped | handedOut => exact served.aside (by rw [under]; rfl) rfl rfl rfl

theorem Served.acknowledge [Broker β ρ] {token : Token} {entry : Nat} {now : Duration}
    {stage : AckStage ρ} (served : Served shared)
    (under : shared.calls number = .acknowledging token entry stage)
    (acknowledges : Acknowledges shared number token entry now stage after) : Served after := by
  have apart : wantsChannel (shared.calls number) = false := by
    rw [under]
    rfl
  cases acknowledges with
  | queued | waited => exact served
  | joined | reached | rejected | asked | refused | agreed | popped | poppedNothing =>
    exact served.aside apart rfl rfl rfl

/-- A stop that wants the channel leaves its line by closing it. -/
theorem Served.closing [Broker β ρ] (served : Served shared)
    (under : shared.calls number = .stopping .closing) : Served (shared.stop number .closing) := by
  simp only [Shared.stop, Reader.stepStop, Reader.closeChannel]
  split
  · split <;> exact served.left rfl rfl (close_contents _)
  · rw [afterStop_waiting under]
    exact served

theorem Served.stop [Broker β ρ] {stage : StopStage} (served : Served shared)
    (under : shared.calls number = .stopping stage) : Served (shared.stop number stage) := by
  -- `stop_cases` does not tell that a stop cannot fail here, with its number left in the line.
  by_cases closing : stage = .closing
  · subst closing
    exact served.closing under
  have apart : wantsChannel (shared.calls number) = false := by
    rw [under]
    cases stage with
    | closing => exact absurd rfl closing
    | entering | unsubscribing | draining | deleting | disconnecting => rfl
  generalize stopped : shared.stop number stage = after
  cases stopped ▸ stop_cases under with
  | queued | gated => exact served
  | closed | closedUntracked => exact absurd rfl closing
  | unsubscribed =>
    exact served.moved rfl (fun other inside apart => by simpa [joinChannel, apart] using inside)
      (fun _ => rfl) fun _ => id
  | marked | failed | untracked | drained | deleted | disconnected =>
    exact served.aside apart rfl rfl rfl

theorem Served.giveUp (served : Served shared) (number : Nat) : Served (giveUp number shared) := by
  unfold RecordsAhead.giveUp
  split
  · exact served.left rfl rfl fun _ => id
  · exact served

theorem Served.enter (served : Served shared) (number : Nat) (task : Task) :
    Served (shared.enter number task) := by
  unfold Shared.enter
  cases free : shared.calls number with
  | reading | acknowledging | stopping | returned => exact served
  | idle =>
    have apart : wantsChannel (shared.calls number) = false := by
      rw [free]
      rfl
    have enters := letIn_cases shared number task
    dsimp only
    generalize { shared.put number (letIn task shared.reader).1 with
      reader := (letIn task shared.reader).2 } = after at enters
    cases enters <;> exact served.aside apart rfl rfl rfl

theorem send_contents_subset (channel : Channel (Delivery ρ)) (sender : Nat)
    (value : Delivery ρ) :
    ∀ message ∈ contents (channel.send sender value).2,
      message ∈ contents channel ∨ message = value := by
  intro message inside
  unfold Channel.send at inside
  split at inside
  · exact .inl inside
  · split at inside
    · simp only [contents, List.append_assoc, List.mem_append, List.mem_singleton] at inside ⊢
      rcases inside with buffered | sent | waiting
      · exact .inl (.inl buffered)
      · exact .inr sent
      · exact .inl (.inr waiting)
    · change message ∈ channel.buffer ++ (channel.line ++ [(sender, value)]).map (·.2) at inside
      rw [List.map_append, ← List.append_assoc] at inside
      exact (List.mem_append.mp inside).imp_right List.mem_singleton.mp

/-- What an act does to a reader, unless it delivers what cannot be read. -/
theorem Served.step [Broker β ρ] (served : Served shared) {act : Act β ρ}
    (readable : ∀ sender message, act = .deliver sender message → Readable message) :
    Served (shared.step act) := by
  cases act with
  | call number task => exact served.enter number task
  | change => exact ⟨served.wanted, served.readable⟩
  | withdraw sender =>
    refine ⟨served.wanted, fun message inside => served.readable message ?_⟩
    simp only [Shared.step, Shared.setChannel, contents, Channel.leave, List.mem_append] at inside ⊢
    refine inside.imp_right fun waiting => ?_
    obtain ⟨entry, member, rfl⟩ := List.mem_map.mp waiting
    exact List.mem_map_of_mem (List.mem_filter.mp member).1
  | deliver sender message =>
    refine ⟨served.wanted, fun other inside => ?_⟩
    rcases send_contents_subset _ _ _ other inside with before | rfl
    · exact served.readable other before
    · exact readable sender other rfl
  | step number now cancelled =>
    simp only [Shared.step]
    cases under : shared.calls number with
    | idle | returned => exact served
    | reading stage => exact served.read under (read_cases under cancelled)
    | acknowledging token entry stage =>
      exact served.acknowledge under (acknowledge_cases under now)
    | stopping stage => exact served.stop under

theorem Served.look (served : Served shared) : Served (look shared) := by
  have line : shared.reader.hasNext.2.channelLine = shared.reader.channelLine := by
    unfold Reader.hasNext
    split <;> rfl
  have channel : shared.reader.hasNext.2.channel = shared.reader.channel := by
    unfold Reader.hasNext
    split <;> rfl
  exact ⟨fun number inside => served.wanted number (line ▸ inside),
    fun message inside => served.readable message (channel ▸ inside)⟩

theorem start_served (port : Nat) (consumer : Consumer) (params : SourceParams) (broker : β) :
    Served (.start (Reader.fresh port consumer params) broker : Shared β ρ) :=
  ⟨fun _ => nofun, fun _ => nofun⟩

end served

theorem Served.happen {shared : Shared MemoryBroker UInt64} (served : Served shared)
    (doing : Doing) : Served (happen shared doing) := by
  have quiet (act : Act MemoryBroker UInt64)
      (silent : ∀ sender message, act ≠ .deliver sender message) : Served (shared.step act) :=
    served.step fun sender message delivers => absurd delivers (silent sender message)
  cases doing with
  | call number task => exact quiet (.call number task) fun _ _ => nofun
  | step number now cancelled => exact quiet (.step number now cancelled) fun _ _ => nofun
  | withdraw sender => exact quiet (.withdraw sender) fun _ _ => nofun
  | change broker => exact quiet (.change broker) fun _ _ => nofun
  | giveUp number => exact served.giveUp number
  | look => exact served.look
  | deliver sender sequence timestamp payload =>
    have stepped : Served (shared.step
        (.deliver sender (MemoryBroker.message sequence timestamp payload))) := by
      refine served.step fun _ _ delivers => ?_
      cases delivers
      exact ⟨_, rfl⟩
    exact stepped

theorem Served.goOn {shared : Shared MemoryBroker UInt64} (served : Served shared)
    (doings : List Doing) : Served (goOn shared doings) := by
  induction doings generalizing shared with
  | nil => exact served
  | cons doing rest ih => exact ih (served.happen doing)

/-- With no call under way, nobody stands in the channel's line. -/
theorem Served.vacant {shared : Shared β ρ} (served : Served shared) (rests : AtRest shared) :
    shared.reader.channelLine = [] := by
  refine List.eq_nil_iff_forall_not_mem.mpr fun number inside => ?_
  have wanted := served.wanted number inside
  rcases rests number with under | ⟨result, under⟩
  · rw [under] at wanted
    cases wanted
  · rw [under] at wanted
    cases wanted

section reads
variable [Broker β ρ] {shared : Shared β ρ} {number : Nat} (now : Duration)

theorem call_running (running : shared.reader.stopped = false)
    (idle : shared.calls number = .idle) :
    (shared.step (.call number .read)).calls number = .reading .entering ∧
      (shared.step (.call number .read)).reader = { shared.reader with started := true } := by
  simp only [Shared.step, Shared.enter, idle, letIn, running, Bool.false_eq_true, if_false,
    and_true]
  exact Shared.put_same _ _ _

theorem call_stopped (stopped : shared.reader.stopped = true)
    (idle : shared.calls number = .idle) :
    (shared.step (.call number .read)).calls number = .returned (.read (.error .stopped)) := by
  simp only [Shared.step, Shared.enter, idle, letIn, if_pos stopped]
  exact Shared.put_same _ _ _

theorem step_returned {result : Result} (under : shared.calls number = .returned result) :
    shared.step (.step number now false) = shared := by
  simp only [Shared.step, under]

theorem step_entering (under : shared.calls number = .reading .entering) :
    (shared.step (.step number now false)).calls number = .reading .queueing ∧
      (shared.step (.step number now false)).reader = joinChannel number shared.reader := by
  simp only [Shared.step, under, Shared.read, goOnReading]
  exact ⟨Shared.put_same _ _ _, rfl⟩

theorem step_queueing (under : shared.calls number = .reading .queueing)
    (head : shared.reader.channelLine.head? = some number) :
    (shared.step (.step number now false)).calls number = .reading .listening ∧
      (shared.step (.step number now false)).reader = shared.reader := by
  simp only [Shared.step, under, Shared.read, goOnReading, Reader.stepRead, Reader.queueRead,
    Bool.false_eq_true, if_false, if_pos head]
  exact ⟨Shared.put_same _ _ _, rfl⟩

theorem step_listening_full (under : shared.calls number = .reading .listening)
    {message : Delivery ρ} {channel : Channel (Delivery ρ)}
    (taken : shared.reader.channel.take = some (message, channel)) :
    ((shared.step (.step number now false)).calls number = .reading (.holding message)) ∧
      (shared.step (.step number now false)).reader =
        { shared.reader.leaveChannel number with channel := channel } := by
  simp only [Shared.step, under, Shared.read, goOnReading, Reader.stepRead, Reader.listen,
    Bool.false_eq_true, if_false, taken]
  exact ⟨Shared.put_same _ _ _, rfl⟩

theorem step_listening_spent (under : shared.calls number = .reading .listening)
    (empty : shared.reader.channel.take = none)
    (spent : shared.reader.hungUp (Broker.feeds shared.broker shared.reader.port) = true) :
    (shared.step (.step number now false)).calls number = .returned (.read (.error .stopped)) := by
  simp only [Shared.step, under, Shared.read, goOnReading, Reader.stepRead, Reader.listen,
    Bool.false_eq_true, if_false, empty, if_pos spent]
  exact Shared.put_same _ _ _

theorem step_listening_still (under : shared.calls number = .reading .listening)
    (empty : shared.reader.channel.take = none)
    (fed : ¬ shared.reader.hungUp (Broker.feeds shared.broker shared.reader.port) = true) :
    shared.step (.step number now false) = shared := by
  simp only [Shared.step, under, Shared.read, goOnReading, Reader.stepRead, Reader.listen,
    Bool.false_eq_true, if_false, empty, if_neg fed]
  exact afterRead_waiting under

theorem step_holding {message : Delivery ρ} {record : Record}
    (under : shared.calls number = .reading (.holding message))
    (readable : shared.reader.record message = .ok record) :
    (shared.step (.step number now false)).calls number = .returned (.read (.ok record)) := by
  simp only [Shared.step, under, Shared.read, goOnReading, Reader.stepRead, Reader.handOut,
    readable]
  exact Shared.put_same _ _ _

/-- A read that nothing comes between: it is let in, and takes its four steps. -/
def readNow (number : Nat) (now : Duration) (shared : Shared β ρ) : Shared β ρ :=
  shared.run (.call number .read :: List.replicate 4 (.step number now false))

/-- How a read ends that is alone with the reader. -/
inductive Finds (shared : Shared β ρ) (number : Nat) (after : Shared β ρ) : Prop where
  | refused (stopped : shared.reader.stopped = true)
      (ended : after.calls number = .returned (.read (.error .stopped)))
  | found (running : shared.reader.stopped = false) (message : Delivery ρ) (record : Record)
      (ahead : message ∈ shared.reader.channel.buffer)
      (ended : after.calls number = .returned (.read (.ok record)))
  | spent (running : shared.reader.stopped = false) (empty : shared.reader.channel.buffer = [])
      (ended : after.calls number = .returned (.read (.error .stopped)))
  | waits (running : shared.reader.stopped = false) (empty : shared.reader.channel.buffer = [])
      (under : after.calls number = .reading .listening)
      (still : ∀ later, after.step (.step number later false) = after)

/-- A read that is let in reaches the channel, if nobody stands in its line. -/
theorem readNow_listens (running : shared.reader.stopped = false)
    (vacant : shared.reader.channelLine = []) (idle : shared.calls number = .idle) :
    ∃ listening : Shared β ρ, listening.calls number = .reading .listening ∧
      listening.reader = { shared.reader with started := true, channelLine := [number] } ∧
      readNow number now shared =
        (listening.step (.step number now false)).step (.step number now false) := by
  obtain ⟨entering, started⟩ := call_running running idle
  obtain ⟨queueing, joined⟩ := step_entering now entering
  rw [started] at joined
  have line : joinChannel number { shared.reader with started := true } =
      { shared.reader with started := true, channelLine := [number] } := by
    simp only [joinChannel, vacant, List.nil_append]
  obtain ⟨listening, same⟩ := step_queueing now queueing (by rw [joined, line]; rfl)
  exact ⟨_, listening, by rw [same, joined, line], rfl⟩

theorem readNow_finds (served : Served shared) (vacant : shared.reader.channelLine = [])
    (idle : shared.calls number = .idle) : Finds shared number (readNow number now shared) := by
  cases stopped : shared.reader.stopped with
  | true =>
    have ended := call_stopped stopped idle
    simp only [readNow, List.replicate, Shared.run, List.foldl_cons, List.foldl_nil,
      step_returned now ended]
    exact .refused stopped ended
  | false =>
    obtain ⟨listening, under, reader, same⟩ := readNow_listens now stopped vacant idle
    have channel : listening.reader.channel = shared.reader.channel := by rw [reader]
    rw [same]
    cases buffer : shared.reader.channel.buffer with
    | nil =>
      have empty : listening.reader.channel.take = none := by rw [channel, Channel.take, buffer]
      by_cases spent : listening.reader.hungUp
          (Broker.feeds listening.broker listening.reader.port) = true
      · have ended := step_listening_spent now under empty spent
        rw [step_returned now ended]
        exact .spent stopped buffer ended
      · have still (later : Duration) := step_listening_still later under empty spent
        rw [still, still]
        exact .waits stopped buffer under still
    | cons message rest =>
      have ahead : message ∈ shared.reader.channel.buffer := buffer ▸ List.mem_cons_self
      have taken : ∃ after, listening.reader.channel.take = some (message, after) := by
        rw [channel, Channel.take, buffer]
        exact ⟨_, rfl⟩
      obtain ⟨after, taken⟩ := taken
      obtain ⟨holding, left⟩ := step_listening_full now under taken
      obtain ⟨record, readable, -⟩ := (served.readable message
        (List.mem_append_left _ ahead)).entry (listening.step (.step number now false)).reader
      exact .found stopped message record ahead (step_holding now holding readable)

omit [Broker β ρ] in
/-- While nobody stands in the channel's line, a look tells of the buffer. -/
theorem hasNext_iff {reader : Reader ρ} (vacant : reader.channelLine = []) :
    reader.hasNext.1 = true ↔ reader.stopped = false ∧ reader.channel.buffer ≠ [] := by
  unfold Reader.hasNext
  cases stopped : reader.stopped <;> simp [vacant]

/-- A read that is made where a look says that a record is there returns one; else it is refused,
or waits. -/
theorem hasNext_agrees (served : Served shared) (rests : AtRest shared)
    (idle : shared.calls number = .idle) :
    (shared.reader.hasNext.1 = true ↔
      ∃ record, (readNow number now shared).calls number = .returned (.read (.ok record))) ∧
    (shared.reader.hasNext.1 = false →
      (readNow number now shared).calls number = .returned (.read (.error .stopped)) ∨
      (readNow number now shared).calls number = .reading .listening ∧
        ∀ later, (readNow number now shared).step (.step number later false) =
          readNow number now shared) := by
  have vacant := served.vacant rests
  have finds := readNow_finds now served vacant idle
  rw [← Bool.not_eq_true, hasNext_iff vacant]
  cases finds with
  | refused stopped ended =>
    simp [stopped, ended]
  | found running message record ahead ended =>
    have full : shared.reader.channel.buffer ≠ [] := List.ne_nil_of_mem ahead
    simp [running, full, ended]
  | spent running empty ended => simp [empty, ended]
  | waits running empty under still => simp [empty, under, still]

end reads

/-- No call at all. -/
def nobody (_ : Nat) : Bool := false

section looks
variable {shared other : Shared β ρ}

theorem look_traceless (traceless : Traceless nobody shared other) :
    Traceless nobody (look shared) other := by
  obtain ⟨started, earlier, rfl⟩ := traceless
  refine ⟨started, fun set => ?_, ?_⟩
  · unfold look Reader.hasNext
    split
    · exact earlier set
    · rfl
  · unfold look Reader.hasNext
    split <;> rfl

theorem giveUp_traceless (traceless : Traceless nobody shared other) (number : Nat) :
    Traceless nobody (giveUp number shared) (giveUp number other) := by
  obtain ⟨started, earlier, rfl⟩ := traceless
  unfold giveUp
  rw [erase_calls rfl]
  by_cases wait : waits (shared.calls number) = true
  · rw [if_pos wait, if_pos wait]
    refine ⟨started, earlier, ?_⟩
    have left : ((veil nobody started shared.reader).leaveChannel number).leaveGate number =
        veil nobody started ((shared.reader.leaveChannel number).leaveGate number) := by
      rw [leaveChannel_veil]
      rfl
    have kept : nobody number = false := rfl
    rw [put_erase kept]
    exact congrArg (fun reader =>
      { erase nobody started (shared.put number .idle) with reader := reader }) left
  · rw [if_neg wait, if_neg wait]
    exact ⟨started, earlier, rfl⟩

theorem erase_nobody (started : Bool) (shared : Shared β ρ) :
    erase nobody started shared =
      { shared with reader := { shared.reader with started := started } } := by
  have line : shared.reader.channelLine.filter (!nobody ·) = shared.reader.channelLine :=
    List.filter_eq_self.mpr fun _ _ => rfl
  simp only [erase, veil, line]
  rfl

theorem behind_nobody (shared : Shared β ρ) (act : Act β ρ) : behind nobody shared act = false := by
  cases act with
  | call | deliver | withdraw | change => rfl
  | step number now cancelled =>
    have first : shared.reader.channelLine.head?.any nobody = false := by
      cases shared.reader.channelLine.head? <;> rfl
    rw [behind, first, Bool.false_and]

theorem step_traceless [Broker β ρ] (traceless : Traceless nobody shared other) (act : Act β ρ) :
    Traceless nobody (shared.step act) (other.step act) :=
  step_kept traceless (by cases act.number? <;> rfl) (behind_nobody shared act)

end looks

section unlooked
variable {shared other : Shared MemoryBroker UInt64}

theorem happen_traceless (traceless : Traceless nobody shared other) {doing : Doing}
    (acts : doing.looks = false) :
    Traceless nobody (happen shared doing) (happen other doing) := by
  cases doing with
  | call number task => exact step_traceless traceless (.call number task)
  | step number now cancelled => exact step_traceless traceless (.step number now cancelled)
  | giveUp number => exact giveUp_traceless traceless number
  | deliver sender sequence timestamp payload =>
    exact step_traceless traceless
      (.deliver sender (MemoryBroker.message sequence timestamp payload))
  | withdraw sender => exact step_traceless traceless (.withdraw sender)
  | change broker => exact step_traceless traceless (.change broker)
  | look => cases acts

theorem told_traceless (traceless : Traceless nobody shared other) (doing : Doing) :
    told other doing = told shared doing := by
  obtain ⟨started, earlier, rfl⟩ := traceless
  cases doing <;> rfl

/-- A run without its looks tells those who deliver the same, and comes to the same state, but for
whether the reader has been started. -/
theorem goOn_traceless (traceless : Traceless nobody shared other) (doings : List Doing) :
    Traceless nobody (goOn shared doings) (goOn other (doings.filter (!·.looks))) ∧
      toldAll other (doings.filter (!·.looks)) = toldAll shared doings := by
  induction doings generalizing shared other with
  | nil => exact ⟨traceless, rfl⟩
  | cons doing rest ih =>
    cases looks : doing.looks with
    | true =>
      rw [List.filter_cons_of_neg (by simp [looks])]
      cases doing with
      | look => exact ih (look_traceless traceless)
      | call | step | giveUp | deliver | withdraw | change => cases looks
    | false =>
      rw [List.filter_cons_of_pos (by simp [looks])]
      obtain ⟨after, heard⟩ := ih (happen_traceless traceless looks)
      refine ⟨after, ?_⟩
      rw [toldAll, toldAll, told_traceless traceless, heard]

end unlooked

/-- What a look does to a reader: it starts one that is not stopped. -/
theorem hasNext_started (reader : Reader ρ) :
    reader.hasNext.2 = { reader with started := !reader.stopped || reader.started } := by
  obtain ⟨_, _, _, _, _, _, started, stopped, _, _⟩ := reader
  cases stopped <;> rfl

theorem hasNext_lifecycle (reader : Reader ρ) :
    reader.hasNext.2.lifecycle =
      if reader.lifecycle = .created then .running else reader.lifecycle := by
  rw [hasNext_started]
  unfold Reader.lifecycle
  cases reader.stopped <;> cases reader.started <;> rfl

/-- In every state that a reader over a broker in memory comes to, in whatever way it is used: where
no call is under way, a look says that a record is there exactly when a read that were made now
would return one without waiting, and otherwise that read would wait or be refused. The looks in a
run, however many and wherever, tell nothing to anybody else: without them, those who deliver learn
the same, each call has come as far or ended with the same result, and the channel, the pending
records and the broker are the same. Only a reader that was just created may be running. -/
theorem look_agrees (port : Nat) (consumer : Consumer) (params : SourceParams)
    (broker : MemoryBroker) (doings : List Doing) :
    let start : Shared MemoryBroker UInt64 := .start (Reader.fresh port consumer params) broker
    let shared := goOn start doings
    let other := goOn start (doings.filter (!·.looks))
    (AtRest shared → ∀ number, shared.calls number = .idle → ∀ now,
      let read := readNow number now shared
      (shared.reader.hasNext.1 = true ↔
        ∃ record, read.calls number = .returned (.read (.ok record))) ∧
      (shared.reader.hasNext.1 = false →
        read.calls number = .returned (.read (.error .stopped)) ∨
        read.calls number = .reading .listening ∧
          ∀ later, read.step (.step number later false) = read)) ∧
    look shared = { shared with reader := { shared.reader with
      started := !shared.reader.stopped || shared.reader.started } } ∧
    (look shared).reader.lifecycle =
      (if shared.reader.lifecycle = .created then .running else shared.reader.lifecycle) ∧
    toldAll start (doings.filter (!·.looks)) = toldAll start doings ∧
    (∃ started, other = { shared with reader := { shared.reader with started := started } }) ∧
    (∀ number, other.calls number = shared.calls number) ∧
    other.reader.channel = shared.reader.channel ∧
    other.reader.pending = shared.reader.pending ∧
    other.broker = shared.broker ∧
    (other.reader.lifecycle = shared.reader.lifecycle ∨
      other.reader.lifecycle = .created ∧ shared.reader.lifecycle = .running) := by
  intro start shared other
  have served : Served shared := (start_served port consumer params broker).goOn doings
  have same : Traceless nobody start start :=
    ⟨false, nofun, (erase_start _ _ rfl rfl).symm⟩
  obtain ⟨traceless, heard⟩ := goOn_traceless same doings
  obtain ⟨channel, pending, kept⟩ := traceless.kept
  refine ⟨fun rests number idle now => hasNext_agrees now served rests idle,
    congrArg (fun reader => { shared with reader := reader }) (hasNext_started shared.reader),
    hasNext_lifecycle shared.reader, heard, ?_, fun number => traceless.calls rfl, channel, pending,
    kept, traceless.lifecycle⟩
  obtain ⟨started, -, erased⟩ := traceless
  exact ⟨started, erased.trans (erase_nobody started shared)⟩

/-- One message comes, and the reader is looked at before and after. -/
def watched : List Doing := [.look, .deliver 0 7 .epoch [0x61], .look]

theorem look_agrees_watched :
    let shared := goOn untouched watched
    AtRest shared ∧ shared.calls 1 = .idle ∧ shared.reader.hasNext.1 = true ∧
      (∃ record, (readNow 1 ⟨0⟩ shared).calls 1 = .returned (.read (.ok record))) ∧
      watched.filter (!·.looks) = [.deliver 0 7 .epoch [0x61]] ∧
      (goOn untouched (watched.filter (!·.looks))).reader.channel = shared.reader.channel := by
  intro shared
  have rests : AtRest shared := fun _ => .inl rfl
  obtain ⟨agrees, _, _, _, _, _, channel, _⟩ :=
    look_agrees 1 tracking oneRoom MemoryBroker.fresh watched
  exact ⟨rests, rfl, rfl, (agrees rests 1 rfl ⟨0⟩).1.mp rfl, rfl, channel⟩

end StreamBridge.Proofs.RecordsAhead
