import StreamBridge.Proofs.SessionSteps

/-! The books of a session. What the channel has accepted came in that order, and is in one of three
places, in this order: settled, handed out and not settled, or still in the channel. A reader that
tracks has the second part pending until it is shut, and the broker has acknowledged the first. -/

namespace StreamBridge.Proofs.SessionHistory
open ReaderSession ReaderCalls SessionSteps

/-- The token in the record of a message. -/
def tokenOf (reader : Reader UInt64) (message : Delivery UInt64) : Token :=
  match reader.record message with
  | .ok record => record.position
  | .error _ => .empty

/-- A message as the broker in memory delivers it. -/
def Delivered (message : Delivery UInt64) : Prop :=
  ∃ sequence timestamp payload, message = MemoryBroker.message sequence timestamp payload

/-- Every message that the channel has accepted, and those whose senders wait in line. -/
def seen (session : Session) : List (Delivery UInt64) :=
  session.accepted ++ session.reader.channel.line.map (·.2)

/-- The books of a session that began as `opened`, after these messages have come. -/
structure Valid (opened : Session) (come settled unsettled : List (Delivery UInt64))
    (session : Session) : Prop where
  alone : Alone session
  running : session.waiting = true → session.reader.stopped = false
  subscribed : session.reader.stopped = false → session.reader.subscribed = true
  consumer : session.reader.consumer = opened.reader.consumer
  subject : session.reader.subject = opened.reader.subject
  capacity : session.reader.channel.capacity = opened.reader.channel.capacity
  room : session.reader.channel.buffer.length ≤ session.reader.channel.capacity
  full : session.reader.channel.line ≠ [] →
    session.reader.channel.capacity ≤ session.reader.channel.buffer.length
  genuine : ∀ message ∈ come, Delivered message
  ordered : (seen session).Sublist come
  accepted : session.accepted = settled ++ unsettled ++ session.reader.channel.buffer
  records : session.handedOut.map .ok = (settled ++ unsettled).map opened.reader.record
  acked : session.broker.acked = opened.broker.acked ++ settled.map (·.receipt)
  pending : session.reader.pending =
    if opened.reader.tracks && session.reader.subscribed then
      unsettled.map fun message => ⟨tokenOf opened.reader message, message⟩
    else []
  untracked : opened.reader.tracks = false → settled = []
  acknowledged : opened.reader.tracks = true →
    session.acknowledged = settled.map (tokenOf opened.reader)
  unsubscribed : session.broker.unsubscribed =
    opened.broker.unsubscribed + if session.reader.subscribed then 0 else 1

variable {opened session : Session} {come settled unsettled : List (Delivery UInt64)}

theorem Valid.sameRecord (valid : Valid opened come settled unsettled session) :
    session.reader.record = opened.reader.record := by
  funext message
  simp only [Reader.record, Reader.position, valid.consumer, valid.subject]

theorem Valid.sameTracks (valid : Valid opened come settled unsettled session) :
    session.reader.tracks = opened.reader.tracks := by
  simp only [Reader.tracks, valid.consumer]

theorem Delivered.readable {message : Delivery UInt64} (delivered : Delivered message)
    (reader : Reader UInt64) : ∃ record, reader.record message = .ok record := by
  obtain ⟨sequence, timestamp, payload, rfl⟩ := delivered
  exact ⟨_, rfl⟩

theorem deliver_preserves (valid : Valid opened come settled unsettled session) (sender : Nat)
    {message : Delivery UInt64} (delivered : Delivered message) :
    Valid opened (come ++ [message]) settled unsettled (session.deliver sender message).2 := by
  have genuine : ∀ other ∈ come ++ [message], Delivered other := by
    intro other member
    rcases List.mem_append.mp member with member | member
    · exact valid.genuine other member
    · exact List.mem_singleton.mp member ▸ delivered
  rcases deliver_cases session sender message with ⟨error, same⟩ | ⟨room, same⟩ | ⟨full, same⟩
  · rw [same]
    exact { valid with
      genuine := genuine
      ordered := valid.ordered.trans (List.sublist_append_left come [message]) }
  · rw [same]
    -- A sender with a full channel ahead of it would be in line, so there is none to overtake.
    have line : session.reader.channel.line = [] := by
      cases line : session.reader.channel.line with
      | nil => rfl
      | cons sender others => exact absurd (valid.full (by simp [line])) (Nat.not_le_of_lt room)
    refine { valid with
      alone := ⟨valid.alone.channelLine, valid.alone.gateLine⟩
      room := ?_
      full := fun waits => absurd line waits
      genuine := genuine
      ordered := ?_
      accepted := ?_ }
    · change (session.reader.channel.buffer ++ [message]).length ≤ session.reader.channel.capacity
      rw [List.length_append]
      exact room
    · have ordered := valid.ordered
      simp only [seen, line, List.map_nil, List.append_nil] at ordered
      simpa [seen, Session.setChannel, line] using ordered
    · change session.accepted ++ [message] = settled ++ unsettled ++ (_ ++ [message])
      rw [valid.accepted, List.append_assoc]
  · rw [same]
    refine { valid with
      alone := ⟨valid.alone.channelLine, valid.alone.gateLine⟩
      full := fun _ => full
      genuine := genuine
      ordered := ?_ }
    have ordered := valid.ordered.append (List.Sublist.refl [message])
    simpa [seen, Session.setChannel] using ordered

theorem withdraw_preserves (valid : Valid opened come settled unsettled session) (sender : Nat) :
    Valid opened come settled unsettled (session.withdraw sender) := by
  have fewer : (session.reader.channel.leave sender).line.Sublist session.reader.channel.line :=
    List.filter_sublist
  exact { valid with
    alone := ⟨valid.alone.channelLine, valid.alone.gateLine⟩
    full := fun waits => valid.full fun none => waits (List.sublist_nil.mp (none ▸ fewer))
    ordered := ((List.Sublist.refl _).append (fewer.map _)).trans valid.ordered }

theorem abandon_preserves (valid : Valid opened come settled unsettled session) :
    Valid opened come settled unsettled session.abandon := by
  rw [abandon_alone valid.alone]
  exact { valid with
    alone := ⟨rfl, valid.alone.gateLine⟩
    running := nofun }

/-- A message that is handed out leaves the channel for the end of the second part. -/
theorem follow_preserves (valid : Valid opened come settled unsettled session)
    {result : Bench.Outcome × Session} (followed : Followed session result) :
    ∃ more, Valid opened come settled more result.2 := by
  cases followed with
  | still outcome started waiting running =>
    exact ⟨unsettled, { valid with
      alone := ⟨rfl, valid.alone.gateLine⟩
      running := running }⟩
  | dropped error started message channel taken unreadable =>
    obtain ⟨rest, buffer, _⟩ := take_cases taken
    have member : message ∈ seen session := by
      simp [seen, valid.accepted, buffer]
    have genuine := valid.genuine message (valid.ordered.subset member)
    obtain ⟨record, readable⟩ := genuine.readable session.reader
    rw [unreadable] at readable
    cases readable
  | took record started message channel running taken readable =>
    obtain ⟨rest, buffer, left, line, single, more, capacity⟩ := take_cases taken
    refine ⟨unsettled ++ [message], { valid with
      alone := ⟨rfl, valid.alone.gateLine⟩
      running := nofun
      capacity := capacity.trans valid.capacity
      room := ?_
      full := ?_
      ordered := ?_
      accepted := ?_
      records := ?_
      pending := ?_ }⟩
    · have room := valid.room
      simp only [buffer, List.length_cons] at room
      simp only [left, capacity, List.length_append]
      omega
    · intro waits
      have waited : session.reader.channel.line ≠ [] := by
        intro none
        rw [none, List.map_nil] at line
        exact waits (List.map_eq_nil_iff.mp (List.append_eq_nil_iff.mp line.symm).2)
      have full := valid.full waited
      simp only [buffer, List.length_cons] at full
      simp only [left, capacity, List.length_append, more waits]
      exact full
    · have ordered := valid.ordered
      rw [seen, line, ← List.append_assoc] at ordered
      exact ordered
    · simp only [valid.accepted, buffer, left, List.append_assoc, List.cons_append,
        List.nil_append]
    · rw [valid.sameRecord] at readable
      simp only [← List.append_assoc, List.map_append, List.map_cons, List.map_nil, ← readable]
      rw [valid.records, List.map_append]
    · have token : record.position = tokenOf opened.reader message := by
        simp only [tokenOf, ← valid.sameRecord, readable]
      simp only [valid.pending, valid.sameTracks, valid.subscribed running, Bool.and_true, token,
        List.map_append, List.map_cons, List.map_nil]
      cases opened.reader.tracks <;> rfl

/-- A message that is settled goes from the head of the second part to the end of the first. -/
theorem acknowledge_preserves (valid : Valid opened come settled unsettled session) {token : Token}
    {result : Bench.Outcome × Session} (acknowledged : Acknowledged session token result) :
    ∃ first second, Valid opened come first second result.2 := by
  cases acknowledged with
  | stopped | nothing | outOfOrder | refused => exact ⟨settled, unsettled, valid⟩
  | untracked running untracked =>
    refine ⟨settled, unsettled, { valid with
      alone := ⟨valid.alone.channelLine, valid.alone.gateLine⟩
      acknowledged := ?_ }⟩
    intro tracks
    rw [valid.sameTracks, tracks] at untracked
    cases untracked
  | settled head rest running tracks pending same agrees =>
    have listed := valid.pending
    rw [pending, ← valid.sameTracks, tracks, valid.subscribed running] at listed
    cases unsettled with
    | nil => cases listed
    | cons message more =>
      simp only [Bool.and_self, if_true, List.map_cons, List.cons.injEq] at listed
      obtain ⟨rfl, rfl⟩ := listed
      refine ⟨settled ++ [message], more, { valid with
        alone := ⟨valid.alone.channelLine, valid.alone.gateLine⟩
        accepted := ?_
        records := ?_
        acked := ?_
        pending := ?_
        untracked := ?_
        acknowledged := ?_ }⟩
      · simp only [valid.accepted, List.append_assoc, List.cons_append, List.nil_append]
      · simp only [valid.records, List.append_assoc, List.cons_append, List.nil_append]
      · simp only [valid.acked, List.append_assoc, List.map_append, List.map_cons, List.map_nil]
      · simp only [← valid.sameTracks, tracks, valid.subscribed running, Bool.and_self, if_true]
      · intro untracked
        rw [valid.sameTracks, untracked] at tracks
        cases tracks
      · intro tracks
        simp only [valid.acknowledged tracks, ← same, List.map_append, List.map_cons, List.map_nil]

theorem shut_preserves (valid : Valid opened come settled unsettled session)
    (idle : session.waiting = false) {broker : MemoryBroker}
    (acked : broker.acked = session.broker.acked)
    (unsubscribed : broker.unsubscribed = (ended session).unsubscribed) :
    Valid opened come settled unsettled
      { session with reader := shut session.reader, broker := broker } := by
  refine { valid with
    alone := ⟨valid.alone.channelLine, valid.alone.gateLine⟩
    running := fun waiting => absurd (idle.symm.trans waiting) Bool.false_ne_true
    subscribed := nofun
    full := fun waits => absurd rfl waits
    ordered := ?_
    acked := acked.trans valid.acked
    pending := ?_
    unsubscribed := ?_ }
  · have fewer : (seen session).Sublist come := valid.ordered
    simpa [seen, shut, Channel.close] using (List.sublist_append_left _ _).trans fewer
  · simp only [shut, valid.sameTracks, valid.pending]
    cases opened.reader.tracks <;> rfl
  · have counted := valid.unsubscribed
    rw [ended] at unsubscribed
    cases subscribed : session.reader.subscribed <;> simp_all [shut]

theorem stop_preserves (valid : Valid opened come settled unsettled session)
    (idle : session.waiting = false) {result : Bench.Outcome × Session}
    (stopped : Stopped session result) : Valid opened come settled unsettled result.2 := by
  have same : (ended session).acked = session.broker.acked := by
    unfold ended
    cases session.reader.subscribed <;> rfl
  cases stopped with
  | kept subscribed =>
    exact { valid with
      alone := ⟨valid.alone.channelLine, valid.alone.gateLine⟩
      running := fun waiting => absurd (idle.symm.trans waiting) Bool.false_ne_true
      subscribed := nofun }
  | undeleted => exact shut_preserves valid idle same rfl
  | closed => exact shut_preserves valid idle same rfl

private theorem Valid.quiet (valid : Valid opened come settled unsettled session) :
    Valid opened (come ++ (none : Option (Delivery UInt64)).toList) settled unsettled session := by
  rw [Option.toList_none, List.append_nil]
  exact valid

/-- Whatever happens, the books stay in order. -/
theorem step_preserves (valid : Valid opened come settled unsettled session) (act : Act) :
    ∃ first second,
      Valid opened (come ++ act.message?.toList) first second (session.step act).2 := by
  have abandoned := abandon_preserves valid
  cases act with
  | deliver sender sequence timestamp payload =>
    exact ⟨_, _, deliver_preserves valid sender ⟨sequence, timestamp, payload, rfl⟩⟩
  | withdraw sender => exact ⟨_, _, (withdraw_preserves valid sender).quiet⟩
  | read cancelled =>
    have followed := read_cases cancelled abandoned.alone.channelLine
    obtain ⟨more, kept⟩ := follow_preserves abandoned followed
    exact ⟨_, _, kept.quiet⟩
  | wake cancelled =>
    rw [Session.step]
    split
    next waiting =>
      have followed := wake_cases valid.alone cancelled waiting (valid.running waiting)
      obtain ⟨more, kept⟩ := follow_preserves valid followed
      exact ⟨_, _, kept.quiet⟩
    next => exact ⟨_, _, valid.quiet⟩
  | abandon => exact ⟨_, _, abandoned.quiet⟩
  | hasNext =>
    refine ⟨settled, unsettled, Valid.quiet ?_⟩
    simp only [Session.step, Reader.hasNext]
    split
    next => exact valid
    next => exact { valid with alone := ⟨valid.alone.channelLine, valid.alone.gateLine⟩ }
  | acknowledge token =>
    obtain ⟨first, second, kept⟩ :=
      acknowledge_preserves valid (acknowledge_cases valid.alone token)
    exact ⟨_, _, kept.quiet⟩
  | stop =>
    exact ⟨_, _, (stop_preserves abandoned rfl (stop_cases abandoned.alone rfl)).quiet⟩
  | setFailing action fails =>
    exact ⟨settled, unsettled, Valid.quiet
      { valid with alone := ⟨valid.alone.channelLine, valid.alone.gateLine⟩ }⟩
  | setLatency latency =>
    exact ⟨settled, unsettled, Valid.quiet
      { valid with alone := ⟨valid.alone.channelLine, valid.alone.gateLine⟩ }⟩

theorem run_preserves (valid : Valid opened come settled unsettled session) (acts : List Act) :
    ∃ first second, Valid opened (come ++ deliveries acts) first second (session.run acts) := by
  induction acts generalizing session come settled unsettled with
  | nil => exact ⟨_, _, valid.quiet⟩
  | cons act rest ih =>
    obtain ⟨_, _, stepped⟩ := step_preserves valid act
    have come : come ++ deliveries (act :: rest) =
        come ++ act.message?.toList ++ deliveries rest := by
      rw [deliveries, List.filterMap_cons]
      cases act.message? <;> simp [deliveries]
    rw [come]
    exact ih stepped

/-- The books of a session begin empty. -/
theorem start_valid {port : Nat} {params : SourceParams} {origin broker : MemoryBroker}
    {reader : Reader UInt64}
    (attached : (Reader.attach port params).make origin = (.ok reader, broker)) :
    Valid (.start reader broker) [] [] [] (.start reader broker) := by
  obtain ⟨config, configured, rfl, rfl⟩ := attach_memory attached
  exact {
    alone := ⟨rfl, rfl⟩
    running := nofun
    subscribed := fun _ => rfl
    consumer := rfl
    subject := rfl
    capacity := rfl
    room := Nat.zero_le _
    full := fun waits => absurd rfl waits
    genuine := fun _ member => nomatch member
    ordered := .refl _
    accepted := rfl
    records := rfl
    acked := (List.append_nil _).symm
    pending := by split <;> rfl
    untracked := fun _ => rfl
    acknowledged := fun _ => rfl
    unsubscribed := rfl }

private theorem followed_stopped {result : Bench.Outcome × Session}
    (followed : Followed session result) :
    result.2.reader.stopped = session.reader.stopped := by
  cases followed <;> rfl

private theorem step_keeps (valid : Valid opened come settled unsettled session) {act : Act}
    (other : act ≠ .stop) : (session.step act).2.reader.stopped = session.reader.stopped := by
  have abandoned := abandon_preserves valid
  cases act with
  | deliver sender sequence timestamp payload =>
    rcases deliver_cases session sender (MemoryBroker.message sequence timestamp payload) with
      ⟨error, come⟩ | ⟨_, come⟩ | ⟨_, come⟩ <;> rw [Session.step, come] <;> rfl
  | read cancelled =>
    have kept := followed_stopped (read_cases cancelled abandoned.alone.channelLine)
    exact kept
  | wake cancelled =>
    rw [Session.step]
    split
    next waiting =>
      exact followed_stopped (wake_cases valid.alone cancelled waiting (valid.running waiting))
    next => rfl
  | hasNext =>
    simp only [Session.step, Reader.hasNext]
    split <;> rfl
  | acknowledge token =>
    have answered := acknowledge_cases valid.alone token
    rw [Session.step]
    generalize session.acknowledge token = result at answered
    cases answered <;> rfl
  | stop => exact absurd rfl other
  | withdraw | abandon | setFailing | setLatency => rfl

/-- A reader is stopped by a call of stop, whether or not that succeeds, and by nothing else. -/
theorem step_stopped (valid : Valid opened come settled unsettled session) (act : Act) :
    (session.step act).2.reader.stopped = true ↔
      act = .stop ∨ session.reader.stopped = true := by
  by_cases stops : act = .stop
  · subst stops
    have stopped := stop_cases (abandon_preserves valid).alone rfl
    rw [Session.step]
    generalize session.abandon.stop = result at stopped
    cases stopped <;> simp [shut]
  · rw [step_keeps valid stops]
    simp [stops]

theorem run_stopped (valid : Valid opened come settled unsettled session) (acts : List Act) :
    (session.run acts).reader.stopped = true ↔
      .stop ∈ acts ∨ session.reader.stopped = true := by
  induction acts generalizing session come settled unsettled with
  | nil => simp [Session.run]
  | cons act rest ih =>
    obtain ⟨_, _, stepped⟩ := step_preserves valid act
    rw [Session.run_cons, ih stepped, step_stopped valid, List.mem_cons, ← or_assoc, eq_comm,
      @or_comm (Act.stop ∈ rest)]

end StreamBridge.Proofs.SessionHistory
