import StreamBridge.Proofs.ServedMessages
import StreamBridge.Proofs.SharedSteps

/-! What a read that fails has taken from the channel. A read that is cancelled, or that finds the
reader stopped, fails with empty hands. One whose message has no readable metadata has taken that
message already, and neither returns it to the channel nor notes it as pending: it is lost. -/

namespace StreamBridge.Proofs.FailedReads
open SharedReader SharedSteps

variable {β ρ : Type}

/-- What a read that failed has lost: the message that it cannot tell the place of, if that is what
it failed with. -/
inductive Loses : SourceError → List (Delivery ρ) → Prop where
  | cancelled : Loses .cancelled []
  | stopped : Loses .stopped []
  | unreadable (message : Delivery ρ) (reason : BrokerError)
      (known : message.metadata = .error reason) : Loses (.broker reason) [message]

/-- What a call has taken from the channel by the time that it stands there. -/
inductive Took : Call ρ → List (Delivery ρ) → Prop where
  | idle : Took .idle []
  | reading (stage : ReadStage ρ) (empty : ∀ message, stage ≠ .holding message) :
      Took (.reading stage) []
  | holding (message : Delivery ρ) : Took (.reading (.holding message)) [message]
  | failed (error : SourceError) (lost : List (Delivery ρ)) (loses : Loses error lost) :
      Took (.returned (.read (.error error))) lost
  | handedOut (record : Record) (message : Delivery ρ) :
      Took (.returned (.read (.ok record))) [message]
  | acknowledging (token : Token) (entry : Nat) (stage : AckStage ρ) :
      Took (.acknowledging token entry stage) []
  | acknowledged (result : Except SourceError Unit) : Took (.returned (.acknowledged result)) []
  | stopping (stage : StopStage) : Took (.stopping stage) []
  | stopped (result : Except SourceError Unit) : Took (.returned (.stopped result)) []

theorem record_loses {reader : Reader ρ} {message : Delivery ρ} {error : SourceError}
    (unreadable : reader.record message = .error error) : Loses error [message] := by
  unfold Reader.record at unreadable
  split at unreadable
  next reason known =>
    cases unreadable
    exact .unreadable message reason known
  next => cases unreadable

/-- A read takes its message with one step, and gives up without one. -/
theorem goOnReading_took {stage : ReadStage ρ} {had : List (Delivery ρ)}
    (took : Took (.reading stage) had) (number : Nat) (cancelled fed : Bool) (reader : Reader ρ) :
    Took (.ofRead stage (goOnReading number cancelled fed stage reader).1)
      (had ++ Shared.taking (goOnReading number cancelled fed stage reader).1) := by
  cases took with
  | holding message =>
    simp only [goOnReading, Reader.stepRead, Reader.handOut]
    split
    next error unreadable => exact .failed error [message] (record_loses unreadable)
    next record _ => exact .handedOut record message
  | reading stage empty =>
    cases stage with
    | holding message => exact absurd rfl (empty message)
    | entering => exact .reading .queueing (by simp)
    | queueing =>
      simp only [goOnReading, Reader.stepRead, Reader.queueRead]
      split
      · exact .failed .cancelled [] .cancelled
      · split
        · exact .reading .listening (by simp)
        · exact .reading .queueing (by simp)
    | listening =>
      simp only [goOnReading, Reader.stepRead, Reader.listen]
      split
      · exact .failed .cancelled [] .cancelled
      · split
        next message _ _ => exact .holding message
        next =>
          split
          · exact .failed .stopped [] .stopped
          · exact .reading .listening (by simp)

theorem letIn_took (task : Task) (reader : Reader ρ) : Took (letIn task reader).1 [] := by
  cases task with
  | read =>
    simp only [letIn]
    split
    · exact .failed .stopped [] .stopped
    · exact .reading .entering (by simp)
  | acknowledge token =>
    simp only [letIn]
    split
    · exact .acknowledged _
    · split
      · exact .acknowledging token 0 .entering
      · exact .acknowledged _
  | stop => exact .stopping .entering

theorem ofAcknowledge_took (token : Token) (entry : Nat) (stage : AckStage ρ)
    (progress : Reader.AckProgress ρ) : Took (.ofAcknowledge token entry stage progress) [] := by
  cases progress with
  | next later => exact .acknowledging token entry later
  | waiting => exact .acknowledging token entry stage
  | finished result => exact .acknowledged result

theorem ofStop_took (stage : StopStage) (progress : Reader.StopProgress) :
    Took (ρ := ρ) (.ofStop stage progress) [] := by
  cases progress with
  | next later => exact .stopping later
  | waiting => exact .stopping stage
  | finished result => exact .stopped result

theorem take_buffer {channel after : Channel (Delivery ρ)} {message : Delivery ρ}
    (taken : channel.take = some (message, after)) :
    channel.buffer <+: message :: after.buffer := by
  unfold Channel.take at taken
  split at taken
  next => cases taken
  next value buffer found =>
    cases taken
    rw [found, Channel.moveUp]
    split
    · exact List.prefix_refl _
    · exact (List.prefix_cons_inj message).mpr (List.prefix_append _ _)

theorem send_buffer (sender : Nat) (message : Delivery ρ) (channel : Channel (Delivery ρ)) :
    channel.buffer <+: (channel.send sender message).2.buffer := by
  unfold Channel.send
  split
  · exact List.prefix_refl _
  · split
    · exact List.prefix_append _ _
    · exact List.prefix_refl _

/-- A call that has not handed anything out, has acknowledged nothing and stopped nothing. -/
inductive Quiet : Call ρ → Prop where
  | idle : Quiet .idle
  | reading (stage : ReadStage ρ) : Quiet (.reading stage)
  | failed (error : SourceError) : Quiet (.returned (.read (.error error)))

/-- What is left of the channel and of the pending records after a call has moved: the channel is
short of what the call has lost, at its front, and of nothing else. -/
structure Leaves (number : Nat) (lost : List (Delivery ρ)) (shared after : Shared β ρ) : Prop where
  buffer : shared.reader.channel.buffer <+: lost ++ after.reader.channel.buffer
  quiet : Quiet (after.calls number) → Quiet (shared.calls number)
  pending : Quiet (after.calls number) → after.reader.pending = shared.reader.pending

section run
variable {number : Nat} {shared after : Shared β ρ}

/-- A step to `after` that takes nothing. -/
private theorem Took.quiet {had : List (Delivery ρ)} {call : Call ρ} (took : Took call had)
    (calls : after.calls number = call) (same : after.taken = shared.taken) :
    Took (after.calls number) (had ++ after.taken.drop shared.taken.length) := by
  rw [calls, same, List.drop_length, List.append_nil]
  exact took

theorem Took.enter {had : List (Delivery ρ)} (took : Took (shared.calls number) had)
    (task : Task) :
    Took ((shared.enter number task).calls number)
      (had ++ (shared.enter number task).taken.drop shared.taken.length) := by
  cases under : shared.calls number with
  | idle =>
    rw [under] at took
    cases took
    have entered : shared.enter number task =
        { shared.put number (letIn task shared.reader).1 with
          reader := (letIn task shared.reader).2 } := by
      simp only [Shared.enter, under]
    rw [entered]
    exact (letIn_took task shared.reader).quiet (Shared.put_same number _ shared) rfl
  | reading | acknowledging | stopping | returned =>
    have same : shared.enter number task = shared := by simp only [Shared.enter, under]
    rw [same]
    exact took.quiet rfl rfl

theorem Leaves.same (number : Nat) (shared : Shared β ρ) : Leaves number [] shared shared :=
  ⟨List.prefix_refl _, id, fun _ => rfl⟩

/-- A call that moves on from a quiet place, with the channel's front and the pending records left
as they are. -/
private theorem Leaves.kept (quiet : Quiet (shared.calls number))
    (buffer : shared.reader.channel.buffer = after.reader.channel.buffer := by rfl)
    (pending : after.reader.pending = shared.reader.pending := by rfl)
    (taken : after.taken = shared.taken := by rfl) :
    Leaves number (after.taken.drop shared.taken.length) shared after := by
  refine ⟨?_, fun _ => quiet, fun _ => pending⟩
  rw [taken, List.drop_length, List.nil_append]
  exact buffer ▸ List.prefix_refl _

private theorem Leaves.loud {call : Call ρ} (calls : after.calls number = call)
    (loud : ¬ Quiet call)
    (buffer : shared.reader.channel.buffer = after.reader.channel.buffer := by rfl)
    (taken : after.taken = shared.taken := by rfl) :
    Leaves number (after.taken.drop shared.taken.length) shared after := by
  refine ⟨?_, fun quiet => absurd (calls ▸ quiet) loud, fun quiet => absurd (calls ▸ quiet) loud⟩
  rw [taken, List.drop_length, List.nil_append]
  exact buffer ▸ List.prefix_refl _

theorem Leaves.entered (under : shared.calls number = .idle)
    (enters : Enters shared number after) :
    Leaves number (after.taken.drop shared.taken.length) shared after := by
  cases enters with
  | ended | reading | acknowledging | stopping => exact .kept (under ▸ .idle)

theorem Leaves.read {stage : ReadStage ρ} (under : shared.calls number = .reading stage)
    (reads : Reads shared number stage after) :
    Leaves number (after.taken.drop shared.taken.length) shared after := by
  have quiet : Quiet (shared.calls number) := under ▸ .reading stage
  cases reads with
  | queued | waited | joined | reached | gaveUp | dropped => exact .kept quiet
  | took message channel taken =>
    refine ⟨?_, fun _ => quiet, fun _ => rfl⟩
    rw [List.drop_left]
    exact take_buffer taken
  | handedOut message record readable => exact .loud (Shared.put_same number _ shared) nofun

theorem Leaves.stopped {stage : StopStage} (under : shared.calls number = .stopping stage)
    (stops : Stops shared number stage after) :
    Leaves number (after.taken.drop shared.taken.length) shared after := by
  cases stops with
  | queued | gated => exact .loud under nofun
  | marked | unsubscribed | failed | closed | closedUntracked | untracked | drained | deleted
  | disconnected => exact .loud (Shared.put_same number _ shared) nofun

variable [Broker β ρ]

/-- What a call takes from the channel with an act. -/
def takes (number : Nat) (shared : Shared β ρ) (act : Act β ρ) : List (Delivery ρ) :=
  if act.number? = some number then (shared.step act).taken.drop shared.taken.length else []

/-- What a call takes from the channel in a run, whatever other calls do in between. -/
def takenBy (number : Nat) : Shared β ρ → List (Act β ρ) → List (Delivery ρ)
  | _, [] => []
  | shared, act :: rest => takes number shared act ++ takenBy number (shared.step act) rest

theorem Took.move {had : List (Delivery ρ)} (took : Took (shared.calls number) had)
    (now : Duration) (cancelled : Bool) :
    let moved := shared.step (.step number now cancelled)
    Took (moved.calls number) (had ++ moved.taken.drop shared.taken.length) := by
  intro moved
  cases under : shared.calls number with
  | idle | returned =>
    have same : moved = shared := by simp only [moved, Shared.step, under]
    rw [same]
    exact took.quiet rfl rfl
  | reading stage =>
    rw [under] at took
    let fed := Broker.feeds shared.broker shared.reader.port
    let went := goOnReading number cancelled fed stage shared.reader
    have moves : moved = shared.afterRead number stage went := by
      simp only [moved, Shared.step, under]
      rfl
    have taken : moved.taken.drop shared.taken.length = Shared.taking went.1 := by
      rw [moves]
      exact List.drop_left
    have calls : moved.calls number = .ofRead stage went.1 := by
      rw [moves]
      exact Shared.put_same _ _ shared
    rw [calls, taken]
    exact goOnReading_took took number cancelled fed shared.reader
  | acknowledging token entry stage =>
    rw [under] at took
    cases took
    have moves : moved = shared.afterAcknowledge number token entry stage
        (goOnAcknowledging number token now stage shared.reader shared.broker) := by
      simp only [moved, Shared.step, under, Shared.acknowledge]
    generalize goOnAcknowledging number token now stage shared.reader shared.broker = went at moves
    obtain ⟨⟨progress, reader⟩, broker⟩ := went
    rw [moves]
    exact (ofAcknowledge_took token (shared.about entry stage) stage progress).quiet
      (Shared.put_same _ _ shared) rfl
  | stopping stage =>
    rw [under] at took
    cases took
    have moves : moved = shared.afterStop number stage
        (shared.reader.stepStop number stage shared.broker) := by
      simp only [moved, Shared.step, under, Shared.stop]
    generalize shared.reader.stepStop number stage shared.broker = went at moves
    obtain ⟨⟨progress, reader⟩, broker⟩ := went
    rw [moves]
    exact (ofStop_took stage progress).quiet (Shared.put_same _ _ shared) rfl

theorem Took.step {had : List (Delivery ρ)} (took : Took (shared.calls number) had)
    (act : Act β ρ) :
    Took ((shared.step act).calls number) (had ++ takes number shared act) := by
  by_cases own : act.number? = some number
  · rw [takes, if_pos own]
    cases act with
    | call moved task =>
      cases own
      exact took.enter task
    | step moved now cancelled =>
      cases own
      exact took.move now cancelled
    | deliver | withdraw | change => cases own
  · rw [step_apart shared own, takes, if_neg own, List.append_nil]
    exact took

theorem Took.run {had : List (Delivery ρ)} (took : Took (shared.calls number) had)
    (acts : List (Act β ρ)) :
    Took ((shared.run acts).calls number) (had ++ takenBy number shared acts) := by
  induction acts generalizing shared had with
  | nil => simpa [takenBy, Shared.run] using took
  | cons act rest ih =>
    rw [takenBy, ← List.append_assoc]
    exact ih (took.step act)

/-- Whether no other call takes a step; messages may come, and the broker may change. -/
def Alone (number : Nat) (acts : List (Act β ρ)) : Prop :=
  ∀ act ∈ acts, ∀ other, act.number? = some other → other = number

theorem Leaves.acknowledged {token : Token} {entry : Nat} {now : Duration} {stage : AckStage ρ}
    (under : shared.calls number = .acknowledging token entry stage)
    (acknowledges : Acknowledges shared number token entry now stage after) :
    Leaves number (after.taken.drop shared.taken.length) shared after := by
  cases acknowledges with
  | queued | waited => exact .loud under nofun
  | joined | reached | rejected | asked | refused | agreed | popped | poppedNothing =>
    exact .loud (Shared.put_same number _ shared) nofun

theorem Leaves.step {act : Act β ρ} (alone : Alone number [act]) :
    Leaves number (takes number shared act) shared (shared.step act) := by
  have own {moved : Nat} (about : act.number? = some moved) :
      moved = number ∧ takes number shared act =
        (shared.step act).taken.drop shared.taken.length := by
    have same := alone act (.head _) moved about
    exact ⟨same, if_pos (same ▸ about)⟩
  cases act with
  | call moved task =>
    obtain ⟨rfl, taken⟩ := own rfl
    rw [taken]
    cases under : shared.calls moved with
    | idle =>
      simp only [Shared.step, Shared.enter, under]
      exact .entered under (letIn_cases shared moved task)
    | reading | acknowledging | stopping | returned =>
      simp only [Shared.step, Shared.enter, under, List.drop_length]
      exact .same moved shared
  | step moved now cancelled =>
    obtain ⟨rfl, taken⟩ := own rfl
    rw [taken]
    cases under : shared.calls moved with
    | idle | returned =>
      simp only [Shared.step, under, List.drop_length]
      exact .same moved shared
    | reading stage =>
      simp only [Shared.step, under]
      exact .read under (read_cases under cancelled)
    | acknowledging token entry stage =>
      simp only [Shared.step, under]
      exact .acknowledged under (acknowledge_cases under now)
    | stopping stage =>
      simp only [Shared.step, under]
      exact .stopped under (stop_cases under)
  | deliver sender message => exact ⟨send_buffer sender message _, id, fun _ => rfl⟩
  | withdraw sender | change broker => exact ⟨List.prefix_refl _, id, fun _ => rfl⟩

theorem Leaves.run {acts : List (Act β ρ)} (alone : Alone number acts) :
    Leaves number (takenBy number shared acts) shared (shared.run acts) := by
  induction acts generalizing shared with
  | nil => exact .same number shared
  | cons act rest ih =>
    have first : Leaves number (takes number shared act) shared (shared.step act) :=
      .step fun other member => by
        rw [List.mem_singleton.mp member]
        exact alone act (.head _)
    have later : Leaves number (takenBy number (shared.step act) rest) (shared.step act)
        ((shared.step act).run rest) := ih fun other member => alone other (.tail _ member)
    rw [takenBy]
    refine ⟨?_, first.quiet ∘ later.quiet, fun quiet => ?_⟩
    · rw [List.append_assoc]
      exact first.buffer.trans ((List.prefix_append_right_inj _).mpr later.buffer)
    · exact (later.pending quiet).trans (first.pending (later.quiet quiet))

/-- A read that fails has lost the one message that it cannot tell the place of, if that is what it
failed with, and else nothing. Where no other call comes in between, the channel is short of that
message only, and what was pending is pending still, each in the order it was in. -/
theorem failed_read_loses (number : Nat) (shared : Shared β ρ)
    (idle : shared.calls number = .idle)
    (acts : List (Act β ρ)) (error : SourceError)
    (failed : (shared.run acts).calls number = .returned (.read (.error error))) :
    Loses error (takenBy number shared acts) ∧
    (Alone number acts →
      shared.reader.channel.buffer <+:
        takenBy number shared acts ++ (shared.run acts).reader.channel.buffer ∧
      (shared.run acts).reader.pending = shared.reader.pending) := by
  have took : Took (shared.calls number) [] := idle ▸ .idle
  have lost := took.run acts
  rw [failed, List.nil_append] at lost
  refine ⟨by cases lost with | failed _ _ loses => exact loses, fun alone => ?_⟩
  have leaves : Leaves number (takenBy number shared acts) shared (shared.run acts) := .run alone
  exact ⟨leaves.buffer, leaves.pending (failed ▸ .failed error)⟩

end run
open Nats
open ServedMessages (orders)

def unanswerable : Message := ⟨"7", [0x61], none, none⟩

def answerable : Message := ⟨"8", [0x62], some (Reply.subject "8" "1700000000000000001"), none⟩

/-- A server whose first message has no reply subject. -/
def serves : Client where
  network := .ofServer { Server.fresh [] with
    streams := [("ORDERS", [unanswerable, answerable])] }
  link := ⟨0, true, false⟩

/-- A channel with room for both messages. -/
def twoRooms : SourceParams := { orders with bufferSize := 2 }

def oneRead : List (Act Client Receipt) :=
  .call 1 .read :: List.replicate 4 (.step 1 ⟨0⟩ false)

theorem failed_read_loses_first :
    ∃ (reader : Reader Receipt) (opened broker : Client) (channel : Channel (Delivery Receipt)),
      (Reader.attach 0 twoRooms).make serves = (.ok reader, opened) ∧
      Broker.forward opened 0 reader.channel = (channel, broker) ∧
      let shared := Shared.start { reader with channel := channel } broker
      shared.calls 1 = .idle ∧ Alone 1 oneRead ∧
      takenBy 1 shared oneRead = [unanswerable.delivery] ∧
      ∃ error, (shared.run oneRead).calls 1 = .returned (.read (.error error)) ∧
        Loses error (takenBy 1 shared oneRead) ∧
        (Alone 1 oneRead →
          shared.reader.channel.buffer <+:
            takenBy 1 shared oneRead ++ (shared.run oneRead).reader.channel.buffer ∧
          (shared.run oneRead).reader.pending = shared.reader.pending) := by
  have attached : (Reader.attach 0 twoRooms).make serves =
      (.ok (Reader.fresh 0 ⟨"ORDERS", "reader", _⟩ twoRooms), _) := rfl
  have alone : Alone 1 oneRead := by simp [Alone, oneRead, Act.number?]
  exact ⟨_, _, _, _, attached, rfl, rfl, alone, rfl, _, rfl,
    failed_read_loses 1 _ rfl oneRead _ rfl⟩

/-- The message without a reply subject was in the channel, and after the read that fails for it no
more; nor is it pending, though records are tracked. The one behind it is still there. -/
theorem unanswerable_lost :
    ∃ (reader : Reader Receipt) (opened broker : Client) (channel : Channel (Delivery Receipt)),
      (Reader.attach 0 twoRooms).make serves = (.ok reader, opened) ∧
      Broker.forward opened 0 reader.channel = (channel, broker) ∧
      let before := Shared.start { reader with channel := channel } broker
      let after := before.run oneRead
      before.reader.tracks = true ∧
      before.reader.channel.buffer = [unanswerable.delivery, answerable.delivery] ∧
      after.calls 1 = .returned (.read (.error
        (.broker (.failed .readMetadata "did not found reply subject")))) ∧
      after.reader.channel.buffer = [answerable.delivery] ∧ after.reader.pending = [] := by
  have attached : (Reader.attach 0 twoRooms).make serves =
      (.ok (Reader.fresh 0 ⟨"ORDERS", "reader", _⟩ twoRooms), _) := rfl
  exact ⟨_, _, _, _, attached, rfl, rfl, rfl, rfl, rfl, rfl⟩

end StreamBridge.Proofs.FailedReads
