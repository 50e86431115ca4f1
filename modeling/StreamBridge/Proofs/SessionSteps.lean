import StreamBridge.Proofs.ReaderCalls

/-! What each act can do to a session whose caller works alone: which calls are refused, which
messages move, and everything that stays. -/

namespace StreamBridge.Proofs.SessionSteps
open ReaderSession ReaderCalls BrokerRequests
open Bench (Outcome)

/-- The locks of a session are held by nothing but the read that waits. -/
structure Alone (session : Session) : Prop where
  channelLine : session.reader.channelLine = if session.waiting then [0] else []
  gateLine : session.reader.gateLine = []

/-- A message is turned away, or let into the channel, or its sender joins the line. -/
theorem deliver_cases (session : Session) (sender : Nat) (message : Delivery UInt64) :
    (∃ error, session.deliver sender message = (.brokerError error, session)) ∨
    (session.reader.channel.buffer.length < session.reader.channel.capacity ∧
      session.deliver sender message = (.done,
        { session.setChannel { session.reader.channel with
            buffer := session.reader.channel.buffer ++ [message] } with
          accepted := session.accepted ++ [message] })) ∨
    (session.reader.channel.capacity ≤ session.reader.channel.buffer.length ∧
      session.deliver sender message = (.pending,
        session.setChannel { session.reader.channel with
          line := session.reader.channel.line ++ [(sender, message)] })) := by
  unfold Session.deliver Channel.send
  split
  next =>
    by_cases closed : session.reader.channel.closed = true
    · exact .inl ⟨.closed, by simp only [if_pos closed]⟩
    · by_cases room : session.reader.channel.hasRoom = true
      · exact .inr (.inl ⟨of_decide_eq_true room, by simp only [if_neg closed, if_pos room]⟩)
      · have full : ¬ session.reader.channel.buffer.length < session.reader.channel.capacity :=
          fun fits => room (decide_eq_true fits)
        exact .inr (.inr ⟨Nat.le_of_not_lt full, by simp only [if_neg closed, if_neg room]⟩)
  next => exact .inl ⟨_, rfl⟩

theorem abandon_alone {session : Session} (alone : Alone session) :
    session.abandon =
      { session with reader := { session.reader with channelLine := [] }, waiting := false } := by
  have left : session.reader.leaveChannel 0 = { session.reader with channelLine := [] } := by
    rw [Reader.leaveChannel, alone.channelLine]
    cases session.waiting <;> rfl
  rw [Session.abandon, left]

/-- What taking a message does to a channel: the first in line moves up to the end of the buffer. -/
theorem take_cases {channel after : Channel (Delivery UInt64)} {message : Delivery UInt64}
    (taken : channel.take = some (message, after)) :
    ∃ rest, channel.buffer = message :: rest ∧ after.buffer = rest ++ admitted channel after ∧
      channel.line.map (·.2) = admitted channel after ++ after.line.map (·.2) ∧
      (admitted channel after).length ≤ 1 ∧
      (after.line ≠ [] → (admitted channel after).length = 1) ∧
      after.capacity = channel.capacity := by
  unfold Channel.take at taken
  cases buffer : channel.buffer with
  | nil =>
    rw [buffer] at taken
    cases taken
  | cons first rest =>
    rw [buffer] at taken
    cases taken
    refine ⟨rest, rfl, ?_⟩
    unfold Channel.moveUp admitted
    cases line : channel.line with
    | nil => simp
    | cons sender line => simp

/-- What following a read can do: nothing but end it or let it wait, or take the first message. -/
inductive Followed (session : Session) : Outcome × Session → Prop where
  | still (outcome : Outcome) (started waiting : Bool)
      (running : waiting = true → session.reader.stopped = false) :
      Followed session (outcome, { session with
        reader := { session.reader with
          started := started
          channelLine := if waiting then [0] else [] }
        waiting := waiting })
  | dropped (error : BrokerError) (started : Bool) (message : Delivery UInt64)
      (channel : Channel (Delivery UInt64))
      (taken : session.reader.channel.take = some (message, channel))
      (unreadable : session.reader.record message = .error (.broker error)) :
      Followed session (.sourceError (.broker error), { session with
        reader := { session.reader with
          started := started
          channelLine := []
          channel := channel }
        waiting := false
        accepted := session.accepted ++ admitted session.reader.channel channel })
  | took (record : Record) (started : Bool) (message : Delivery UInt64)
      (channel : Channel (Delivery UInt64)) (running : session.reader.stopped = false)
      (taken : session.reader.channel.take = some (message, channel))
      (readable : session.reader.record message = .ok record) :
      Followed session (.record record, { session with
        reader := { session.reader with
          started := started
          channelLine := []
          channel := channel
          pending := session.reader.pending ++
            if session.reader.tracks then [⟨record.position, message⟩] else [] }
        waiting := false
        accepted := session.accepted ++ admitted session.reader.channel channel
        handedOut := session.handedOut ++ [record] })

theorem admitted_same (channel : Channel (Delivery UInt64)) : admitted channel channel = [] := by
  simp [admitted]

private theorem followed_still (session : Session) (started waiting : Bool)
    (result : Option SourceError) (waits : waiting = result.isNone)
    (running : waiting = true → session.reader.stopped = false) :
    Followed session (session.conclude (result.map .error,
      { session.reader with
        started := started
        channelLine := if waiting then [0] else [] })) := by
  subst waits
  cases result with
  | none =>
    simpa [Session.conclude, admitted_same] using Followed.still .pending started true running
  | some error =>
    simpa [Session.conclude, admitted_same] using
      Followed.still (.sourceError error) started false running

private theorem followed_listening (session : Session) (cancelled fed started : Bool)
    (steps : Nat) (running : session.reader.stopped = false) :
    Followed session (session.conclude (advance cancelled fed (steps + 2) .listening
      { session.reader with started := started, channelLine := [0] })) := by
  rw [advance_listening _ cancelled fed steps rfl]
  split
  next => exact followed_still session started false (some .cancelled) rfl nofun
  next =>
    cases taken : session.reader.channel.take with
    | none =>
      simp only
      split
      next => exact followed_still session started false (some .stopped) rfl nofun
      next => exact followed_still session started true none rfl fun _ => running
    | some first =>
      obtain ⟨message, channel⟩ := first
      simp only [handOver]
      split
      next error unreadable =>
        obtain ⟨cause, rfl⟩ : ∃ cause, error = .broker cause := by
          unfold Reader.record at unreadable
          split at unreadable
          next cause _ => exact ⟨cause, (Except.error.inj unreadable).symm⟩
          next => cases unreadable
        exact .dropped cause started message channel taken unreadable
      next record readable =>
        rw [track_pending]
        exact .took record started message channel running taken readable

theorem wake_cases {session : Session} (alone : Alone session) (cancelled : Bool)
    (waiting : session.waiting = true) (running : session.reader.stopped = false) :
    Followed session (session.follow cancelled .listening) := by
  have line : session.reader.channelLine = [0] := by simp [alone.channelLine, waiting]
  have listening := followed_listening session cancelled
    (Broker.feeds session.broker session.reader.port) session.reader.started 2 running
  rw [← line] at listening
  exact listening

theorem read_cases {session : Session} (cancelled : Bool)
    (line : session.reader.channelLine = []) :
    Followed session (session.follow cancelled .entering) := by
  rw [Session.follow, advance_entering _ _ _ line]
  by_cases stopped : session.reader.stopped = true
  · rw [if_pos stopped]
    have still := followed_still session session.reader.started false (some .stopped) rfl nofun
    simp only [Bool.false_eq_true, if_false, ← line] at still
    exact still
  · rw [if_neg stopped]
    split
    next =>
      have still := followed_still session true false (some .cancelled) rfl nofun
      simp only [Bool.false_eq_true, if_false, ← line] at still
      exact still
    next => exact followed_listening session cancelled _ true 0 (Bool.eq_false_iff.mpr stopped)

/-- What an acknowledgement can do: settle the oldest pending message, or nothing at all. -/
inductive Acknowledged (session : Session) (token : Token) : Outcome × Session → Prop where
  | stopped (stopped : session.reader.stopped = true) :
      Acknowledged session token (.sourceError .stopped, session)
  | untracked (running : session.reader.stopped = false)
      (untracked : session.reader.tracks = false) :
      Acknowledged session token
        (.done, { session with acknowledged := session.acknowledged ++ [token] })
  | nothing (running : session.reader.stopped = false) (tracks : session.reader.tracks = true)
      (pending : session.reader.pending = []) :
      Acknowledged session token (.sourceError (.nothingPending token), session)
  | outOfOrder (head : Pending UInt64) (rest : List (Pending UInt64))
      (running : session.reader.stopped = false) (tracks : session.reader.tracks = true)
      (pending : session.reader.pending = head :: rest) (other : head.token ≠ token) :
      Acknowledged session token (.sourceError (.outOfOrder token head.token), session)
  | refused (head : Pending UInt64) (rest : List (Pending UInt64))
      (running : session.reader.stopped = false) (tracks : session.reader.tracks = true)
      (pending : session.reader.pending = head :: rest) (same : head.token = token)
      (fails : session.broker.fails .acknowledge = true) :
      Acknowledged session token
        (.sourceError (.broker (.failed .acknowledge "mock ack failure")), session)
  | settled (head : Pending UInt64) (rest : List (Pending UInt64))
      (running : session.reader.stopped = false) (tracks : session.reader.tracks = true)
      (pending : session.reader.pending = head :: rest) (same : head.token = token)
      (agrees : session.broker.fails .acknowledge = false) :
      Acknowledged session token (.done, { session with
        reader := { session.reader with pending := rest }
        broker := { session.broker with
          acked := session.broker.acked ++ [head.delivery.receipt] }
        acknowledged := session.acknowledged ++ [token] })

theorem acknowledge_cases {session : Session} (alone : Alone session) (token : Token) :
    Acknowledged session token (session.acknowledge token) := by
  rw [Session.acknowledge, acknowledge_alone token session.reader session.broker alone.gateLine]
  by_cases stopped : session.reader.stopped = true
  · simp only [if_pos stopped]
    exact .stopped stopped
  · have running : session.reader.stopped = false := Bool.eq_false_iff.mpr stopped
    simp only [if_neg stopped]
    cases tracks : session.reader.tracks with
    | false => exact .untracked running tracks
    | true =>
      simp only [Bool.true_eq_false, if_false, settleHead]
      cases pending : session.reader.pending with
      | nil => exact .nothing running tracks pending
      | cons head rest =>
        by_cases same : head.token = token
        · simp only [if_pos same, settle, make_acknowledge, pending]
          cases fails : session.broker.fails .acknowledge with
          | true => exact .refused head rest running tracks pending same fails
          | false => exact .settled head rest running tracks pending same fails
        · simp only [if_neg same]
          exact .outOfOrder head rest running tracks pending same

/-- The broker once the subscription has ended. -/
def ended (session : Session) : MemoryBroker :=
  if session.reader.subscribed then
    { session.broker with live := none, unsubscribed := session.broker.unsubscribed + 1 }
  else session.broker

/-- What a stop can do: it fails before the subscription has ended, or shuts the reader. -/
inductive Stopped (session : Session) : Outcome × Session → Prop where
  | kept (subscribed : session.reader.subscribed = true)
      (fails : session.broker.fails .unsubscribe = true) :
      Stopped session (.sourceError (.broker (.failed .unsubscribe "mock unsubscribe failure")),
        { session with reader := { session.reader with stopped := true } })
  | undeleted
      (can : session.reader.subscribed = true → session.broker.fails .unsubscribe = false)
      (fails : session.broker.fails .deleteConsumer = true) :
      Stopped session (.sourceError (.broker (.failed .deleteConsumer "mock delete failure")),
        { session with reader := shut session.reader, broker := ended session })
  | closed
      (can : session.reader.subscribed = true → session.broker.fails .unsubscribe = false)
      (deletes : session.broker.fails .deleteConsumer = false) :
      Stopped session (.done, { session with
        reader := shut session.reader
        broker := { ended session with
          deleted := (ended session).deleted ++
            [(session.reader.consumer.stream, session.reader.consumer.name)]
          closings := (ended session).closings + 1 } })

theorem stop_cases {session : Session} (alone : Alone session) (idle : session.waiting = false) :
    Stopped session session.stop := by
  have line : session.reader.channelLine = [] := by simp [alone.channelLine, idle]
  have fails (action : BrokerAction) :
      (ended session).fails action = session.broker.fails action := by
    unfold ended
    cases session.reader.subscribed <;> rfl
  have ends (can : session.reader.subscribed = true → session.broker.fails .unsubscribe = false) :
      (endSubscription session.reader).make session.broker = (.ok (), ended session) := by
    rw [endSubscription_memory, ended]
    split
    next subscribed => simp [can subscribed]
    next => rfl
  rw [Session.stop, stop_alone session.reader session.broker line alone.gateLine]
  by_cases kept : session.reader.subscribed = true ∧ session.broker.fails .unsubscribe = true
  · rw [endSubscription_memory, if_pos kept.1, if_pos kept.2]
    exact .kept kept.1 kept.2
  · have can (subscribed : session.reader.subscribed = true) :
        session.broker.fails .unsubscribe = false := by
      simpa [subscribed] using kept
    rw [ends can]
    simp only [tearDown_memory, fails]
    cases deletes : session.broker.fails .deleteConsumer with
    | true => exact .undeleted can deletes
    | false => exact .closed can deletes

end StreamBridge.Proofs.SessionSteps
