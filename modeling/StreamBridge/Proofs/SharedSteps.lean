import StreamBridge.Proofs.ReaderCalls
import StreamBridge.Proofs.SharedReader

/-! What one step of each kind of call can do to a shared reader: which line it joins or leaves,
what it takes or notes, and everything that stays. Later proofs use these instead of the stages. -/

namespace StreamBridge.Proofs.SharedSteps
open SharedReader ReaderCalls

variable {β ρ : Type}

theorem departed_same {shared : Shared β ρ} {after : Reader ρ}
    (same : after.pending = shared.reader.pending) : shared.departed after = [] := by
  simp [Shared.departed, same]

/-- What a step of a read can do. -/
inductive Reads (shared : Shared β ρ) (number : Nat) : ReadStage ρ → Shared β ρ → Prop where
  | queued : Reads shared number .queueing shared
  | waited : Reads shared number .listening shared
  | joined : Reads shared number .entering
      { shared.put number (.reading .queueing) with reader := joinChannel number shared.reader }
  | reached : Reads shared number .queueing (shared.put number (.reading .listening))
  | gaveUp (stage : ReadStage ρ) (error : SourceError)
      (empty : ∀ message, stage ≠ .holding message) :
      Reads shared number stage { shared.put number (.returned (.read (.error error))) with
        reader := shared.reader.leaveChannel number }
  | took (message : Delivery ρ) (channel : Channel (Delivery ρ))
      (taken : shared.reader.channel.take = some (message, channel)) :
      Reads shared number .listening { shared.put number (.reading (.holding message)) with
        reader := { shared.reader.leaveChannel number with channel := channel }
        taken := shared.taken ++ [message] }
  | dropped (message : Delivery ρ) (error : SourceError)
      (unreadable : shared.reader.record message = .error error) :
      Reads shared number (.holding message) (shared.put number (.returned (.read (.error error))))
  | handedOut (message : Delivery ρ) (record : Record)
      (readable : shared.reader.record message = .ok record) :
      Reads shared number (.holding message)
        { shared.put number (.returned (.read (.ok record))) with
          reader := { shared.reader with
            pending := shared.reader.pending ++
              if shared.reader.tracks then [⟨record.position, message⟩] else [] }
          noted := shared.noted ++
            if shared.reader.tracks then [⟨record.position, message⟩] else [] }

/-- A step that takes nothing and notes nothing only moves its call. -/
theorem afterRead_kept {shared : Shared β ρ} {number : Nat} (stage : ReadStage ρ)
    {progress : Reader.ReadProgress ρ} {reader : Reader ρ}
    (nothing : Shared.taking progress = [] := by rfl)
    (same : reader.pending = shared.reader.pending := by rfl) :
    shared.afterRead number stage (progress, reader) =
      { shared.put number (.ofRead stage progress) with reader := reader } := by
  simp only [Shared.afterRead, nothing, same, List.drop_length, List.append_nil]
  rfl

theorem afterRead_waiting {shared : Shared β ρ} {number : Nat} {stage : ReadStage ρ}
    (under : shared.calls number = .reading stage) :
    shared.afterRead number stage (.waiting, shared.reader) = shared := by
  rw [afterRead_kept stage, Call.ofRead, Shared.put_under under]

theorem read_cases [Broker β ρ] {shared : Shared β ρ} {number : Nat} {stage : ReadStage ρ}
    (under : shared.calls number = .reading stage) (cancelled : Bool) :
    Reads shared number stage (shared.read number cancelled stage) := by
  unfold Shared.read
  cases stage with
  | entering =>
    simp only [goOnReading]
    rw [afterRead_kept .entering]
    exact .joined
  | queueing =>
    simp only [goOnReading, Reader.stepRead, Reader.queueRead]
    split
    next =>
      rw [afterRead_kept .queueing]
      exact .gaveUp .queueing .cancelled (by simp)
    next =>
      split
      next =>
        rw [afterRead_kept .queueing]
        exact .reached
      next =>
        rw [afterRead_waiting under]
        exact .queued
  | listening =>
    simp only [goOnReading, Reader.stepRead, Reader.listen]
    split
    next =>
      rw [afterRead_kept .listening]
      exact .gaveUp .listening .cancelled (by simp)
    next =>
      split
      next message channel taken =>
        simp only [Shared.afterRead, Reader.leaveChannel, List.drop_length, List.append_nil]
        exact .took message channel taken
      next =>
        split
        next =>
          rw [afterRead_kept .listening]
          exact .gaveUp .listening .stopped (by simp)
        next =>
          rw [afterRead_waiting under]
          exact .waited
  | holding message =>
    simp only [goOnReading, Reader.stepRead, Reader.handOut]
    split
    next error unreadable =>
      rw [afterRead_kept (.holding message)]
      exact .dropped message error unreadable
    next record readable =>
      simp only [track_pending, Shared.afterRead, Shared.taking, List.append_nil, List.drop_left]
      exact .handedOut message record readable

/-- What a step of an acknowledgement can do. -/
inductive Acknowledges [Broker β ρ] (shared : Shared β ρ) (number : Nat) (token : Token)
    (entry : Nat) (now : Duration) : AckStage ρ → Shared β ρ → Prop where
  | queued : Acknowledges shared number token entry now .queueing shared
  | waited (due : Duration) (delivery : Delivery ρ) (early : now < due) :
      Acknowledges shared number token entry now (.asking due delivery) shared
  | joined : Acknowledges shared number token entry now .entering
      { shared.put number (.acknowledging token entry .queueing) with
        reader := joinGate number shared.reader }
  | reached (head : shared.reader.gateLine.head? = some number) :
      Acknowledges shared number token entry now .queueing
        (shared.put number (.acknowledging token entry .comparing))
  | rejected (error : SourceError) :
      Acknowledges shared number token entry now .comparing
        { shared.put number (.returned (.acknowledged (.error error))) with
          reader := shared.reader.leaveGate number }
  | asked (due : Duration) (delivery : Delivery ρ)
      (head : shared.reader.pending.head? = some ⟨token, delivery⟩) :
      Acknowledges shared number token entry now .comparing
        (shared.put number (.acknowledging token shared.gone (.asking due delivery)))
  | refused (due : Duration) (delivery : Delivery ρ) (error : BrokerError) (broker : β)
      (late : ¬ now < due)
      (answered : (Broker.acknowledge delivery.receipt).make shared.broker =
        (.error error, broker)) :
      Acknowledges shared number token entry now (.asking due delivery)
        { shared.put number (.returned (.acknowledged (.error (.broker error)))) with
          broker := broker
          reader := shared.reader.leaveGate number }
  | agreed (due : Duration) (delivery : Delivery ρ) (broker : β) (late : ¬ now < due)
      (answered : (Broker.acknowledge delivery.receipt).make shared.broker = (.ok (), broker)) :
      Acknowledges shared number token entry now (.asking due delivery)
        { shared.put number (.acknowledging token entry .popping) with
          broker := broker
          agreed := shared.agreed ++ [entry] }
  | popped (head : Pending ρ) (rest : List (Pending ρ))
      (pending : shared.reader.pending = head :: rest) :
      Acknowledges shared number token entry now .popping
        { shared.put number (.returned (.acknowledged (.ok ()))) with
          reader := { shared.reader.leaveGate number with pending := rest }
          popped := shared.popped ++ [shared.gone] }
  | poppedNothing (pending : shared.reader.pending = []) :
      Acknowledges shared number token entry now .popping
        { shared.put number (.returned (.acknowledged (.ok ()))) with
          reader := { shared.reader.leaveGate number with pending := [] } }

theorem afterAcknowledge_kept {shared : Shared β ρ} {number : Nat} {token : Token} {entry : Nat}
    (stage : AckStage ρ) {progress : Reader.AckProgress ρ} {reader : Reader ρ} {broker : β}
    (nothing : Shared.agreeing entry stage progress = [] := by rfl)
    (same : reader.pending = shared.reader.pending := by rfl) :
    shared.afterAcknowledge number token entry stage ((progress, reader), broker) =
      { shared.put number (.ofAcknowledge token (shared.about entry stage) stage progress) with
        broker := broker
        reader := reader } := by
  simp only [Shared.afterAcknowledge, nothing, departed_same same, List.append_nil]
  rfl

theorem afterAcknowledge_waiting {shared : Shared β ρ} {number : Nat} {token : Token}
    {entry : Nat} {stage : AckStage ρ}
    (under : shared.calls number = .acknowledging token entry stage)
    (apart : shared.about entry stage = entry) :
    shared.afterAcknowledge number token entry stage ((.waiting, shared.reader), shared.broker) =
      shared := by
  have nothing : Shared.agreeing entry stage .waiting = [] := by cases stage <;> rfl
  rw [afterAcknowledge_kept stage nothing, apart, Call.ofAcknowledge, Shared.put_under under]

theorem acknowledge_cases [Broker β ρ] {shared : Shared β ρ} {number : Nat} {token : Token}
    {entry : Nat} {stage : AckStage ρ}
    (under : shared.calls number = .acknowledging token entry stage) (now : Duration) :
    Acknowledges shared number token entry now stage
      (shared.acknowledge number token entry now stage) := by
  unfold Shared.acknowledge
  cases stage with
  | entering =>
    simp only [goOnAcknowledging]
    rw [afterAcknowledge_kept .entering]
    exact .joined
  | queueing =>
    simp only [goOnAcknowledging, Reader.stepAck, Reader.queueAck]
    split
    next head =>
      rw [afterAcknowledge_kept .queueing]
      exact .reached head
    next =>
      rw [afterAcknowledge_waiting under rfl]
      exact .queued
  | comparing =>
    simp only [goOnAcknowledging, Reader.stepAck, Reader.compareAck]
    split
    next =>
      rw [afterAcknowledge_kept .comparing]
      exact .rejected (.nothingPending token)
    next head rest pending =>
      split
      next same =>
        rw [afterAcknowledge_kept .comparing]
        refine .asked _ head.delivery ?_
        rw [pending, List.head?_cons, ← same]
      next =>
        rw [afterAcknowledge_kept .comparing]
        exact .rejected (.outOfOrder token head.token)
  | asking due delivery =>
    simp only [goOnAcknowledging, Reader.stepAck]
    split
    next early =>
      rw [afterAcknowledge_waiting under rfl]
      exact .waited due delivery early
    next late =>
      rcases answered : (Broker.acknowledge delivery.receipt).make shared.broker with
        ⟨error | ⟨⟩, broker⟩
      · simp only [Reader.answerAck]
        rw [afterAcknowledge_kept (.asking due delivery)]
        exact .refused due delivery error broker late answered
      · simp only [Reader.answerAck, Shared.afterAcknowledge, departed_same, List.append_nil]
        exact .agreed due delivery broker late answered
  | popping =>
    simp only [goOnAcknowledging, Reader.stepAck, Reader.popAck]
    cases pending : shared.reader.pending with
    | nil =>
      rw [List.tail_nil, afterAcknowledge_kept .popping rfl pending.symm]
      exact .poppedNothing pending
    | cons head rest =>
      simp only [Shared.afterAcknowledge, Shared.agreeing, List.append_nil, Shared.departed,
        pending, List.tail_cons, List.length_cons, Nat.add_sub_cancel_left, List.range'_one]
      exact .popped head rest pending

/-- What a step of a stop can do. -/
inductive Stops (shared : Shared β ρ) (number : Nat) :
    StopStage → Shared β ρ → Prop where
  | queued : Stops shared number .closing shared
  | gated : Stops shared number .draining shared
  | marked : Stops shared number .entering { shared.put number (.stopping .unsubscribing) with
      reader := { shared.reader with stopped := true } }
  | unsubscribed (broker : β) (subscribed : Bool) :
      Stops shared number .unsubscribing { shared.put number (.stopping .closing) with
        broker := broker
        reader := { joinChannel number shared.reader with subscribed := subscribed } }
  | failed (stage : StopStage) (error : SourceError) (broker : β) (apart : stage ≠ .draining) :
      Stops shared number stage { shared.put number (.returned (.stopped (.error error))) with
        broker := broker }
  | closed (tracks : shared.reader.tracks = true) :
      Stops shared number .closing { shared.put number (.stopping .draining) with
        reader := { shared.reader.leaveChannel number with
          channel := shared.reader.channel.close
          gateLine := shared.reader.gateLine ++ [number] } }
  | closedUntracked (tracks : shared.reader.tracks = false) :
      Stops shared number .closing { shared.put number (.stopping .draining) with
        reader := { shared.reader.leaveChannel number with
          channel := shared.reader.channel.close } }
  | untracked (tracks : shared.reader.tracks = false) :
      Stops shared number .draining (shared.put number (.stopping .deleting))
  | drained (tracks : shared.reader.tracks = true)
      (head : shared.reader.gateLine.head? = some number) :
      Stops shared number .draining { shared.put number (.stopping .deleting) with
        reader := { shared.reader.leaveGate number with pending := [] }
        forgotten := shared.forgotten ++
          List.range' shared.gone shared.reader.pending.length }
  | deleted (broker : β) :
      Stops shared number .deleting { shared.put number (.stopping .disconnecting) with
        broker := broker }
  | disconnected (broker : β) :
      Stops shared number .disconnecting { shared.put number (.returned (.stopped (.ok ()))) with
        broker := broker }

theorem afterStop_kept {shared : Shared β ρ} {number : Nat} (stage : StopStage)
    {progress : Reader.StopProgress} {reader : Reader ρ} {broker : β}
    (same : reader.pending = shared.reader.pending := by rfl) :
    shared.afterStop number stage ((progress, reader), broker) =
      { shared.put number (.ofStop stage progress) with
        broker := broker
        reader := reader } := by
  simp only [Shared.afterStop, departed_same same, List.append_nil]
  rfl

theorem afterStop_waiting {shared : Shared β ρ} {number : Nat} {stage : StopStage}
    (under : shared.calls number = .stopping stage) :
    shared.afterStop number stage ((.waiting, shared.reader), shared.broker) = shared := by
  rw [afterStop_kept stage, Call.ofStop, Shared.put_under under]

theorem stop_cases [Broker β ρ] {shared : Shared β ρ} {number : Nat} {stage : StopStage}
    (under : shared.calls number = .stopping stage) :
    Stops shared number stage (shared.stop number stage) := by
  unfold Shared.stop
  cases stage with
  | entering =>
    simp only [Reader.stepStop]
    rw [afterStop_kept .entering]
    exact .marked
  | unsubscribing =>
    simp only [Reader.stepStop, Reader.unsubscribe]
    split
    next =>
      rcases (Broker.unsubscribe shared.reader.port).make shared.broker with ⟨error | ⟨⟩, broker⟩
      · rw [afterStop_kept .unsubscribing]
        exact .failed .unsubscribing (.broker error) broker (by simp)
      · rw [afterStop_kept .unsubscribing]
        exact .unsubscribed broker false
    next ended =>
      rw [afterStop_kept .unsubscribing]
      exact .unsubscribed shared.broker shared.reader.subscribed
  | closing =>
    simp only [Reader.stepStop, Reader.closeChannel]
    split
    next =>
      split
      next tracks =>
        rw [afterStop_kept .closing]
        exact .closed tracks
      next untracked =>
        rw [afterStop_kept .closing]
        exact .closedUntracked (Bool.eq_false_iff.mpr untracked)
    next =>
      rw [afterStop_waiting under]
      exact .queued
  | draining =>
    simp only [Reader.stepStop, Reader.drain]
    split
    next untracked =>
      rw [afterStop_kept .draining]
      exact .untracked (by simpa using untracked)
    next tracks =>
      split
      next head => exact .drained (by simpa using tracks) head
      next =>
        rw [afterStop_waiting under]
        exact .gated
  | deleting =>
    simp only [Reader.stepStop, Reader.deleteConsumer]
    rcases (Broker.deleteConsumer shared.reader.consumer.stream shared.reader.consumer.name).make
      shared.broker with ⟨error | ⟨⟩, broker⟩
    · rw [afterStop_kept .deleting]
      exact .failed .deleting (.broker error) broker (by simp)
    · rw [afterStop_kept .deleting]
      exact .deleted broker
  | disconnecting =>
    simp only [Reader.stepStop, Reader.disconnect]
    rcases (Broker.close (β := β)).make shared.broker with ⟨error | ⟨⟩, broker⟩
    · rw [afterStop_kept .disconnecting]
      exact .failed .disconnecting (.broker error) broker (by simp)
    · rw [afterStop_kept .disconnecting]
      exact .disconnected broker

/-- What the beginning of a call can do: it ends at once, without a record, or it is let in. -/
inductive Enters (shared : Shared β ρ) (number : Nat) : Shared β ρ → Prop where
  | ended (result : Result) (empty : ∀ record, result ≠ .read (.ok record)) :
      Enters shared number (shared.put number (.returned result))
  | reading (running : shared.reader.stopped = false) :
      Enters shared number { shared.put number (.reading .entering) with
        reader := { shared.reader with started := true } }
  | acknowledging (token : Token) :
      Enters shared number (shared.put number (.acknowledging token 0 .entering))
  | stopping : Enters shared number (shared.put number (.stopping .entering))

theorem letIn_cases (shared : Shared β ρ) (number : Nat) (task : Task) :
    Enters shared number { shared.put number (letIn task shared.reader).1 with
      reader := (letIn task shared.reader).2 } := by
  cases task with
  | read =>
    by_cases stopped : shared.reader.stopped = true
    · simp only [letIn, if_pos stopped]
      exact .ended _ fun _ => nofun
    · simp only [letIn, if_neg stopped]
      exact .reading (Bool.eq_false_iff.mpr stopped)
  | acknowledge token =>
    by_cases stopped : shared.reader.stopped = true
    · simp only [letIn, if_pos stopped]
      exact .ended _ fun _ => nofun
    · simp only [letIn, if_neg stopped]
      cases shared.reader.tracks with
      | true => exact .acknowledging token
      | false => exact .ended _ fun _ => nofun
  | stop => exact .stopping

/-- What any act can do to a shared reader. -/
inductive Steps [Broker β ρ] (shared : Shared β ρ) : Act β ρ → Shared β ρ → Prop where
  | still (act : Act β ρ) : Steps shared act shared
  | entered (number : Nat) (task : Task) {after : Shared β ρ} (free : shared.calls number = .idle)
      (enters : Enters shared number after) : Steps shared (.call number task) after
  | read (number : Nat) (now : Duration) (cancelled : Bool) {stage : ReadStage ρ}
      {after : Shared β ρ} (under : shared.calls number = .reading stage)
      (reads : Reads shared number stage after) : Steps shared (.step number now cancelled) after
  | acknowledged (number : Nat) (now : Duration) (cancelled : Bool) {token : Token} {entry : Nat}
      {stage : AckStage ρ} {after : Shared β ρ}
      (under : shared.calls number = .acknowledging token entry stage)
      (acknowledges : Acknowledges shared number token entry now stage after) :
      Steps shared (.step number now cancelled) after
  | stopped (number : Nat) (now : Duration) (cancelled : Bool) {stage : StopStage}
      {after : Shared β ρ} (under : shared.calls number = .stopping stage)
      (stops : Stops shared number stage after) : Steps shared (.step number now cancelled) after
  | channel (act : Act β ρ) (channel : Channel (Delivery ρ)) :
      Steps shared act (shared.setChannel channel)
  | broker (change : β → β) :
      Steps shared (.change change) { shared with broker := change shared.broker }

theorem step_cases [Broker β ρ] (shared : Shared β ρ) (act : Act β ρ) :
    Steps shared act (shared.step act) := by
  cases act with
  | call number task =>
    cases free : shared.calls number with
    | idle =>
      simp only [Shared.step, Shared.enter, free]
      exact .entered number task free (letIn_cases shared number task)
    | reading | acknowledging | stopping | returned =>
      simp only [Shared.step, Shared.enter, free]
      exact .still _
  | step number now cancelled =>
    cases under : shared.calls number with
    | idle | returned =>
      simp only [Shared.step, under]
      exact .still _
    | reading stage =>
      simp only [Shared.step, under]
      exact .read number now cancelled under (read_cases under cancelled)
    | acknowledging token entry stage =>
      simp only [Shared.step, under]
      exact .acknowledged number now cancelled under (acknowledge_cases under now)
    | stopping stage =>
      simp only [Shared.step, under]
      exact .stopped number now cancelled under (stop_cases under)
  | deliver sender message => exact .channel _ _
  | withdraw sender => exact .channel _ _
  | change broker => exact .broker broker

/-- A call moves by its own steps only. -/
theorem step_apart [Broker β ρ] (shared : Shared β ρ) {act : Act β ρ} {number : Nat}
    (apart : act.number? ≠ some number) : (shared.step act).calls number = shared.calls number := by
  have other {moved : Nat} (about : act.number? = some moved) : number ≠ moved :=
    fun same => apart (same ▸ about)
  generalize stepped : shared.step act = after
  cases stepped ▸ step_cases shared act with
  | still | channel | broker => rfl
  | entered moved task free enters => cases enters <;> exact Shared.put_other _ _ (other rfl)
  | read moved now cancelled under reads =>
    cases reads with
    | queued | waited => rfl
    | joined | reached | gaveUp | took | dropped | handedOut =>
      exact Shared.put_other _ _ (other rfl)
  | acknowledged moved now cancelled under acknowledges =>
    cases acknowledges with
    | queued | waited => rfl
    | joined | reached | rejected | asked | refused | agreed | popped | poppedNothing =>
      exact Shared.put_other _ _ (other rfl)
  | stopped moved now cancelled under stops =>
    cases stops with
    | queued | gated => rfl
    | marked | unsubscribed | failed | closed | closedUntracked | untracked | drained | deleted
    | disconnected => exact Shared.put_other _ _ (other rfl)

theorem run_apart [Broker β ρ] (shared : Shared β ρ) {acts : List (Act β ρ)} {number : Nat}
    (apart : ∀ act ∈ acts, act.number? ≠ some number) :
    (shared.run acts).calls number = shared.calls number := by
  induction acts generalizing shared with
  | nil => rfl
  | cons act rest ih =>
    rw [Shared.run_cons, ih (shared.step act) fun later member => apart later (.tail _ member)]
    exact step_apart shared (apart act (.head _))

end StreamBridge.Proofs.SharedSteps
