import StreamBridge.Proofs.SharedSteps

/-! What a cancelled read leaves behind: nothing. A run in which some reads end as cancelled is
compared, state by state, with the run of the other calls alone. While a cancelled read stands in
the channel's line, another call may spend turns behind it; such a turn does nothing, and is left
out of the other run. -/

namespace StreamBridge.Proofs.CancelledReads
open SharedReader SharedSteps

variable {β ρ : Type} {gone : Nat → Bool} {started : Bool} {shared : Shared β ρ} {number : Nat}

/-- A reader as it would be without the calls `gone`. -/
def veil (gone : Nat → Bool) (started : Bool) (reader : Reader ρ) : Reader ρ :=
  { reader with
    channelLine := reader.channelLine.filter (!gone ·)
    started := started }

@[inherit_doc veil]
def erase (gone : Nat → Bool) (started : Bool) (shared : Shared β ρ) : Shared β ρ :=
  { shared with
    reader := veil gone started shared.reader
    calls := fun number => if gone number then .idle else shared.calls number }

/-- That a state `other` is `shared` without the calls `gone`. One of those may have started the
reader. -/
def Traceless (gone : Nat → Bool) (shared other : Shared β ρ) : Prop :=
  ∃ started, (started = true → shared.reader.started = true) ∧ other = erase gone started shared

/-- Whether an act is the turn of a call that stands in line behind one of the calls `gone`. -/
def behind (gone : Nat → Bool) (shared : Shared β ρ) : Act β ρ → Bool
  | .step number _ cancelled =>
    shared.reader.channelLine.head?.any gone &&
      match shared.calls number with
      | .reading .queueing => !cancelled
      | .stopping .closing => true
      | _ => false
  | .call _ _ | .deliver _ _ | .withdraw _ | .change _ => false

/-- What is left of a run without the calls `gone`. -/
def without [Broker β ρ] (gone : Nat → Bool) (shared : Shared β ρ) :
    List (Act β ρ) → List (Act β ρ)
  | [] => []
  | act :: rest =>
    let left := without gone (shared.step act) rest
    if act.number?.any gone || behind gone shared act then left else act :: left

section veil

theorem filter_leave {line : List Nat} (out : gone number = true) :
    (line.filter (· != number)).filter (!gone ·) = line.filter (!gone ·) := by
  rw [List.filter_filter]
  refine List.filter_congr fun other _ => ?_
  by_cases same : other = number
  · simp [same, out]
  · simp [same]

theorem filter_join {line : List Nat} (kept : gone number = false) :
    (line ++ [number]).filter (!gone ·) = line.filter (!gone ·) ++ [number] := by
  simp [kept]

theorem leaveChannel_veil (number : Nat) (reader : Reader ρ) :
    (veil gone started reader).leaveChannel number =
      veil gone started (reader.leaveChannel number) := by
  simp only [veil, Reader.leaveChannel, List.filter_filter, Bool.and_comm]

theorem head_veil {reader : Reader ρ} (free : reader.channelLine.head?.any gone = false) :
    (veil gone started reader).channelLine.head? = reader.channelLine.head? := by
  unfold veil
  cases line : reader.channelLine with
  | nil => rfl
  | cons first rest =>
    rw [line] at free
    have kept : gone first = false := free
    simp [kept]

section fields
variable (gone started) (reader : Reader ρ)

theorem veil_channel : (veil gone started reader).channel = reader.channel := rfl
theorem veil_tracks : (veil gone started reader).tracks = reader.tracks := rfl
theorem veil_pending : (veil gone started reader).pending = reader.pending := rfl
theorem veil_gateLine : (veil gone started reader).gateLine = reader.gateLine := rfl
theorem veil_subscribed : (veil gone started reader).subscribed = reader.subscribed := rfl
theorem veil_port : (veil gone started reader).port = reader.port := rfl

theorem veil_hungUp (fed : Bool) : (veil gone started reader).hungUp fed = reader.hungUp fed := rfl

theorem veil_record (message : Delivery ρ) :
    (veil gone started reader).record message = reader.record message := rfl

end fields

theorem letIn_veil (gone : Nat → Bool) (task : Task) (reader : Reader ρ)
    (earlier : started = true → reader.started = true) :
    ∃ later, (later = true → (letIn task reader).2.started = true) ∧
      letIn task (veil gone started reader) =
        ((letIn task reader).1, veil gone later (letIn task reader).2) := by
  have shut : (veil gone started reader).stopped = reader.stopped := rfl
  have lists : (veil gone started reader).tracks = reader.tracks := rfl
  cases task with
  | stop => exact ⟨started, earlier, rfl⟩
  | acknowledge token =>
    refine ⟨started, ?_⟩
    cases stopped : reader.stopped <;> cases tracks : reader.tracks <;>
      simpa [letIn, shut, lists, stopped, tracks] using earlier
  | read =>
    cases stopped : reader.stopped with
    | true => exact ⟨started, by simpa [letIn, shut, stopped] using earlier⟩
    | false => exact ⟨true, by simp [letIn, stopped, veil]⟩

/-- A read takes no notice of the calls that are gone, unless it stands in line behind one. -/
theorem goOnReading_veil (kept : gone number = false) (cancelled fed : Bool) {stage : ReadStage ρ}
    (reader : Reader ρ)
    (free : stage = .queueing → cancelled = false → reader.channelLine.head?.any gone = false) :
    goOnReading number cancelled fed stage (veil gone started reader) =
      ((goOnReading number cancelled fed stage reader).1,
        veil gone started (goOnReading number cancelled fed stage reader).2) := by
  cases stage with
  | entering => simp only [goOnReading, joinChannel, veil, filter_join kept]
  | queueing =>
    simp only [goOnReading, Reader.stepRead, Reader.queueRead, leaveChannel_veil]
    cases cancelled with
    | true => rfl
    | false =>
      simp only [Bool.false_eq_true, if_false]
      rw [head_veil (free rfl rfl)]
      split <;> rfl
  | listening =>
    simp only [goOnReading, Reader.stepRead, Reader.listen, leaveChannel_veil]
    cases cancelled with
    | true => rfl
    | false =>
      simp only [Bool.false_eq_true, if_false]
      rw [veil_channel, veil_hungUp]
      split
      · rfl
      · split <;> rfl
  | holding message =>
    simp only [goOnReading, Reader.stepRead, Reader.handOut, veil_record, Reader.track]
    rw [veil_tracks]
    split
    · rfl
    · split <;> rfl

theorem goOnAcknowledging_veil [Broker β ρ] (number : Nat) (token : Token) (now : Duration)
    (stage : AckStage ρ) (reader : Reader ρ) (broker : β) :
    goOnAcknowledging number token now stage (veil gone started reader) broker =
      (((goOnAcknowledging number token now stage reader broker).1.1,
        veil gone started (goOnAcknowledging number token now stage reader broker).1.2),
        (goOnAcknowledging number token now stage reader broker).2) := by
  cases stage with
  | entering | popping => rfl
  | queueing =>
    simp only [goOnAcknowledging, Reader.stepAck, Reader.queueAck]
    rw [veil_gateLine]
    split <;> rfl
  | comparing =>
    simp only [goOnAcknowledging, Reader.stepAck, Reader.compareAck]
    rw [veil_pending]
    split
    · rfl
    · split <;> rfl
  | asking due delivery =>
    simp only [goOnAcknowledging, Reader.stepAck]
    split
    · rfl
    · rcases (Broker.acknowledge delivery.receipt).make broker with ⟨error | ⟨⟩, broker⟩ <;> rfl

/-- A stop takes no notice of the calls that are gone, unless it stands in line behind one. -/
theorem stepStop_veil [Broker β ρ] (kept : gone number = false) {stage : StopStage}
    (reader : Reader ρ) (broker : β)
    (free : stage = .closing → reader.channelLine.head?.any gone = false) :
    (veil gone started reader).stepStop number stage broker =
      (((reader.stepStop number stage broker).1.1,
        veil gone started (reader.stepStop number stage broker).1.2),
        (reader.stepStop number stage broker).2) := by
  cases stage with
  | entering | deleting | disconnecting => rfl
  | unsubscribing =>
    simp only [Reader.stepStop, Reader.unsubscribe]
    rw [veil_subscribed, veil_port]
    split
    · rcases (Broker.unsubscribe reader.port).make broker with ⟨error | ⟨⟩, broker⟩
      · rfl
      · simp only [veil, filter_join kept]
    · simp only [veil, filter_join kept]
  | closing =>
    simp only [Reader.stepStop, Reader.closeChannel, leaveChannel_veil]
    rw [head_veil (free rfl), veil_tracks]
    split
    · split <;> rfl
    · rfl
  | draining =>
    simp only [Reader.stepStop, Reader.drain]
    rw [veil_tracks, veil_gateLine]
    split
    · rfl
    · split <;> rfl

end veil

section erase

theorem erase_start (reader : Reader ρ) (broker : β) (line : reader.channelLine = [])
    (created : reader.started = false) :
    erase gone false (.start reader broker) = .start reader broker := by
  have same : veil gone false reader = reader := by
    unfold veil
    rw [line, List.filter_nil, ← line, ← created]
  have idle : (erase gone false (Shared.start reader broker)).calls =
      (Shared.start reader broker).calls := by
    funext number
    exact ite_self _
  calc erase gone false (.start reader broker)
    _ = { Shared.start (veil gone false reader) broker with
          calls := (erase gone false (Shared.start reader broker)).calls } := rfl
    _ = .start reader broker := by rw [same, idle]

theorem erase_calls (kept : gone number = false) :
    (erase gone started shared).calls number = shared.calls number := by
  simp only [erase, kept, Bool.false_eq_true, if_false]

theorem put_erase (kept : gone number = false) (call : Call ρ) :
    (erase gone started shared).put number call = erase gone started (shared.put number call) := by
  have same : ((erase gone started shared).put number call).calls =
      (erase gone started (shared.put number call)).calls := by
    funext other
    by_cases moved : other = number
    · rw [moved, Shared.put_same, erase_calls kept, Shared.put_same]
    · simp only [erase, Shared.put, if_neg moved]
  exact congrArg (fun calls => { erase gone started shared with calls := calls }) same

/-- What a step of a kept call does to the reader, it does to the reader without the others. -/
theorem read_erase [Broker β ρ] (kept : gone number = false) (cancelled : Bool)
    {stage : ReadStage ρ}
    (free : stage = .queueing → cancelled = false →
      shared.reader.channelLine.head?.any gone = false) :
    (erase gone started shared).read number cancelled stage =
      erase gone started (shared.read number cancelled stage) := by
  unfold Shared.read
  show (erase gone started shared).afterRead number stage (goOnReading number cancelled
    (Broker.feeds shared.broker shared.reader.port) stage (veil gone started shared.reader)) = _
  rw [goOnReading_veil kept cancelled _ shared.reader free]
  simp only [Shared.afterRead, put_erase kept]
  rfl

theorem acknowledge_erase [Broker β ρ] (kept : gone number = false) (token : Token) (entry : Nat)
    (now : Duration) (stage : AckStage ρ) :
    (erase gone started shared).acknowledge number token entry now stage =
      erase gone started (shared.acknowledge number token entry now stage) := by
  unfold Shared.acknowledge
  show (erase gone started shared).afterAcknowledge number token entry stage
    (goOnAcknowledging number token now stage (veil gone started shared.reader) shared.broker) = _
  rw [goOnAcknowledging_veil]
  simp only [Shared.afterAcknowledge, put_erase kept]
  cases stage <;> rfl

theorem stop_erase [Broker β ρ] (kept : gone number = false) {stage : StopStage}
    (free : stage = .closing → shared.reader.channelLine.head?.any gone = false) :
    (erase gone started shared).stop number stage =
      erase gone started (shared.stop number stage) := by
  unfold Shared.stop
  show (erase gone started shared).afterStop number stage
    ((veil gone started shared.reader).stepStop number stage shared.broker) = _
  rw [stepStop_veil kept shared.reader shared.broker free]
  simp only [Shared.afterStop, put_erase kept]
  rfl

theorem put_gone (out : gone number = true) (call : Call ρ) :
    erase gone started (shared.put number call) = erase gone started shared := by
  have same : (erase gone started (shared.put number call)).calls =
      (erase gone started shared).calls := by
    funext other
    by_cases moved : other = number
    · simp only [erase, moved, out, if_true]
    · simp only [erase, Shared.put, if_neg moved]
  exact congrArg (fun calls => { erase gone started shared with calls := calls }) same

/-- A call that is gone moves, and where the reader changes, only its line does. -/
theorem move_gone (out : gone number = true) (call : Call ρ) {reader : Reader ρ}
    (same : veil gone started reader = veil gone started shared.reader) :
    erase gone started { shared.put number call with reader := reader } =
      erase gone started shared :=
  calc erase gone started { shared.put number call with reader := reader }
    _ = { erase gone started (shared.put number call) with
          reader := veil gone started reader } := rfl
    _ = erase gone started shared := by
      rw [put_gone out, same]
      rfl

end erase

/-- A call that may yet end as a cancelled read, or has: it has taken nothing. -/
inductive EmptyHanded : Call ρ → Prop where
  | idle : EmptyHanded .idle
  | reading (stage : ReadStage ρ) (empty : ∀ message, stage ≠ .holding message) :
    EmptyHanded (.reading stage)
  | cancelled : EmptyHanded (.returned (.read (.error .cancelled)))

section steps
variable [Broker β ρ]

/-- A call that is empty-handed after a step was so before it. -/
theorem EmptyHanded.before {act : Act β ρ} (after : EmptyHanded ((shared.step act).calls number)) :
    EmptyHanded (shared.calls number) := by
  by_cases apart : act.number? = some number
  · cases act with
    | deliver | withdraw | change => cases apart
    | call moved task =>
      obtain rfl : moved = number := Option.some.inj apart
      cases under : shared.calls moved with
      | idle => exact .idle
      | reading | acknowledging | stopping | returned =>
        simpa only [Shared.step, Shared.enter, under] using after
    | step moved now cancelled =>
      obtain rfl : moved = number := Option.some.inj apart
      cases under : shared.calls moved with
      | idle => exact .idle
      | returned => simpa only [Shared.step, under] using after
      | acknowledging token entry stage =>
        simp only [Shared.step, under, Shared.acknowledge, Shared.afterAcknowledge,
          Shared.put_same] at after
        generalize (goOnAcknowledging moved token now stage shared.reader shared.broker).1.1 =
          progress at after
        cases progress <;> cases after
      | stopping stage =>
        simp only [Shared.step, under, Shared.stop, Shared.afterStop, Shared.put_same] at after
        generalize (shared.reader.stepStop moved stage shared.broker).1.1 = progress at after
        cases progress <;> cases after
      | reading stage =>
        refine .reading stage fun message holds => ?_
        subst holds
        simp only [Shared.step, under] at after
        generalize stepped : shared.read moved cancelled (.holding message) = next at after
        cases stepped ▸ read_cases under cancelled with
        | gaveUp _ _ empty => exact empty message rfl
        | dropped _ error unreadable =>
          rw [Shared.put_same] at after
          cases after
          -- A message without a record is the broker's error.
          unfold Reader.record at unreadable
          split at unreadable <;> cases unreadable
        | handedOut =>
          rw [Shared.put_same] at after
          cases after
  · rwa [step_apart shared apart] at after

theorem EmptyHanded.run_before (acts : List (Act β ρ))
    (after : EmptyHanded ((shared.run acts).calls number)) : EmptyHanded (shared.calls number) := by
  induction acts generalizing shared with
  | nil => exact after
  | cons act rest ih => exact (ih after).before

/-- A step of a read that stays empty-handed leaves nothing that can be seen without it. -/
theorem step_gone {act : Act β ρ} (about : act.number? = some number) (out : gone number = true)
    (before : EmptyHanded (shared.calls number))
    (after : EmptyHanded ((shared.step act).calls number)) :
    erase gone started (shared.step act) = erase gone started shared := by
  cases act with
  | deliver | withdraw | change => cases about
  | call moved task =>
    obtain rfl : moved = number := Option.some.inj about
    cases under : shared.calls moved with
    | idle =>
      simp only [Shared.step, Shared.enter, under]
      have enters := letIn_cases shared moved task
      generalize { shared.put moved (letIn task shared.reader).1 with
        reader := (letIn task shared.reader).2 } = next at enters
      cases enters with
      | ended | acknowledging | stopping => exact put_gone out _
      | reading => exact move_gone out _ rfl
    | reading | acknowledging | stopping | returned => simp only [Shared.step, Shared.enter, under]
  | step moved now cancelled =>
    obtain rfl : moved = number := Option.some.inj about
    cases under : shared.calls moved with
    | idle | returned => simp only [Shared.step, under]
    | acknowledging | stopping =>
      rw [under] at before
      cases before
    | reading stage =>
      simp only [Shared.step, under] at after ⊢
      generalize stepped : shared.read moved cancelled stage = next at after
      cases stepped ▸ read_cases under cancelled with
      | queued | waited => rfl
      | reached | dropped => exact put_gone out _
      | joined => exact move_gone out _ (by simp [veil, joinChannel, out])
      | gaveUp => exact move_gone out _ (by simp only [veil, Reader.leaveChannel, filter_leave out])
      | took =>
        rw [Shared.put_same] at after
        cases after with
        | reading _ empty => exact absurd rfl (empty _)
      | handedOut =>
        rw [Shared.put_same] at after
        cases after

/-- A turn spent in line does nothing. -/
theorem step_behind {act : Act β ρ} (kept : act.number?.any gone = false)
    (waits : behind gone shared act = true) : shared.step act = shared := by
  cases act with
  | call | deliver | withdraw | change => cases waits
  | step number now cancelled =>
    obtain ⟨first, stage⟩ := Bool.and_eq_true_iff.mp waits
    have apart : shared.reader.channelLine.head? ≠ some number := fun same => by
      rw [same] at first
      exact absurd (first.symm.trans kept) nofun
    cases under : shared.calls number with
    | idle | returned | acknowledging => simp [under] at stage
    | reading =>
      rename_i reached
      cases reached with
      | entering | listening | holding => simp [under] at stage
      | queueing =>
        obtain rfl : cancelled = false := by simpa [under] using stage
        simp only [Shared.step, under, Shared.read, goOnReading, Reader.stepRead, Reader.queueRead,
          Bool.false_eq_true, if_false, if_neg apart]
        exact afterRead_waiting under
    | stopping =>
      rename_i reached
      cases reached with
      | entering | unsubscribing | draining | deleting | disconnecting => simp [under] at stage
      | closing =>
        simp only [Shared.step, under, Shared.stop, Reader.stepStop, Reader.closeChannel,
          if_neg apart]
        exact afterStop_waiting under

theorem step_started (act : Act β ρ) (before : shared.reader.started = true) :
    (shared.step act).reader.started = true := by
  generalize stepped : shared.step act = next
  cases stepped ▸ step_cases shared act with
  | still | channel | broker => exact before
  | entered _ _ _ enters =>
    cases enters with
    | ended | acknowledging | stopping => exact before
    | reading => rfl
  | read _ _ _ _ reads => cases reads <;> exact before
  | acknowledged _ _ _ _ acknowledges => cases acknowledges <;> exact before
  | stopped _ _ _ _ stops => cases stops <;> exact before

omit [Broker β ρ] in
/-- A call that is kept is let in, or answered, as without those that are gone. -/
theorem enter_kept {other : Shared β ρ} (kept : gone number = false)
    (traceless : Traceless gone shared other) (task : Task) :
    Traceless gone (shared.enter number task) (other.enter number task) := by
  obtain ⟨started, earlier, rfl⟩ := traceless
  unfold Shared.enter
  rw [erase_calls kept]
  cases shared.calls number with
  | reading | acknowledging | stopping | returned => exact ⟨started, earlier, rfl⟩
  | idle =>
    obtain ⟨later, set, same⟩ := letIn_veil gone task shared.reader earlier
    refine ⟨later, set, ?_⟩
    rw [show (erase gone started shared).reader = veil gone started shared.reader from rfl, same]
    simp only [put_erase kept]
    rfl

/-- A step of the other calls, or of the world, is the same without those that are gone. -/
theorem step_kept {other : Shared β ρ} (traceless : Traceless gone shared other) {act : Act β ρ}
    (kept : act.number?.any gone = false) (free : behind gone shared act = false) :
    Traceless gone (shared.step act) (other.step act) := by
  cases act with
  | call number task => exact enter_kept kept traceless task
  | deliver | withdraw | change =>
    obtain ⟨started, earlier, rfl⟩ := traceless
    exact ⟨started, earlier, rfl⟩
  | step number now cancelled =>
    obtain ⟨started, earlier, rfl⟩ := traceless
    refine ⟨started, fun set => step_started _ (earlier set), ?_⟩
    simp only [Shared.step]
    rw [erase_calls kept]
    cases under : shared.calls number with
    | idle | returned => rfl
    | acknowledging token entry stage => exact acknowledge_erase kept token entry now stage
    | reading stage =>
      refine read_erase kept cancelled fun queued uncancelled => ?_
      simpa [behind, under, queued, uncancelled] using free
    | stopping stage =>
      refine stop_erase kept fun queued => ?_
      simpa [behind, under, queued] using free

/-- A run of which the calls that are gone have taken nothing is the run of the others. -/
theorem run_traceless {other : Shared β ρ} {acts : List (Act β ρ)}
    (traceless : Traceless gone shared other)
    (empty : ∀ number, gone number = true → EmptyHanded ((shared.run acts).calls number)) :
    Traceless gone (shared.run acts) (other.run (without gone shared acts)) := by
  induction acts generalizing shared other with
  | nil => exact traceless
  | cons act rest ih =>
    have stepped (number : Nat) (out : gone number = true) :
        EmptyHanded ((shared.step act).calls number) :=
      EmptyHanded.run_before rest (empty number out)
    unfold without
    by_cases out : act.number?.any gone = true
    · rw [out, Bool.true_or, if_pos rfl]
      refine ih ?_ empty
      obtain ⟨started, earlier, rfl⟩ := traceless
      obtain ⟨number, about, out⟩ := (Option.any_eq_true _ _).mp out
      exact ⟨started, fun set => step_started act (earlier set),
        (step_gone about out (stepped number out).before (stepped number out)).symm⟩
    · have kept : act.number?.any gone = false := Bool.eq_false_iff.mpr out
      by_cases waits : behind gone shared act = true
      · rw [waits, Bool.or_true, if_pos rfl]
        refine ih ?_ empty
        rwa [step_behind kept waits]
      · have free : behind gone shared act = false := Bool.eq_false_iff.mpr waits
        rw [kept, free, Bool.or_false, if_neg Bool.false_ne_true]
        exact ih (step_kept traceless kept free) empty

/-- Where no call takes a turn behind one that is gone, a run without those is what is left when
their own acts are taken out. -/
theorem without_apart {acts : List (Act β ρ)}
    (apart : ∀ before act, before ++ [act] <+: acts → behind gone (shared.run before) act = false) :
    without gone shared acts = acts.filter (!·.number?.any gone) := by
  induction acts generalizing shared with
  | nil => rfl
  | cons act rest ih =>
    have first : behind gone shared act = false := apart [] act ⟨rest, rfl⟩
    have left : without gone (shared.step act) rest = rest.filter (!·.number?.any gone) :=
      ih fun before later inside =>
        apart (act :: before) later (List.cons_prefix_cons.mpr ⟨rfl, inside⟩)
    unfold without
    rw [first, left, Bool.or_false]
    cases out : act.number?.any gone <;> simp [out]

end steps

/-- A read that finds its flag set is cancelled, whatever is there to be read. -/
theorem read_cancelled (reader : Reader ρ) (fed : Bool) (running : reader.stopped = false)
    (line : reader.channelLine = []) :
    reader.read true fed = (some (.error .cancelled), { reader with started := true }) := by
  simp [Reader.read, Reader.readFor, Reader.stepRead, Reader.enterRead, Reader.queueRead,
    Reader.leaveChannel, running, line]

theorem read_restarted (reader : Reader ρ) (fed : Bool) (running : reader.stopped = false) :
    ({ reader with started := true } : Reader ρ).read false fed = reader.read false fed := by
  simp [Reader.read, Reader.readFor, Reader.stepRead, Reader.enterRead, running]

theorem Traceless.lifecycle {other : Shared β ρ} (traceless : Traceless gone shared other) :
    other.reader.lifecycle = shared.reader.lifecycle ∨
    other.reader.lifecycle = .created ∧ shared.reader.lifecycle = .running := by
  obtain ⟨started, earlier, rfl⟩ := traceless
  have shut : (erase gone started shared).reader.stopped = shared.reader.stopped := rfl
  have begun : (erase gone started shared).reader.started = started := rfl
  cases stopped : shared.reader.stopped <;> cases running : shared.reader.started <;>
    cases started <;> simp_all [Reader.lifecycle]

theorem Traceless.calls {other : Shared β ρ} (traceless : Traceless gone shared other)
    (kept : gone number = false) : other.calls number = shared.calls number := by
  obtain ⟨_, _, same⟩ := traceless
  rw [same, erase_calls kept]

theorem Traceless.kept {other : Shared β ρ} (traceless : Traceless gone shared other) :
    other.reader.channel = shared.reader.channel ∧ other.reader.pending = shared.reader.pending ∧
      other.broker = shared.broker := by
  obtain ⟨_, _, same⟩ := traceless
  rw [same]
  exact ⟨rfl, rfl, rfl⟩

/-- A read that waits is cancelled by leaving the channel's line. -/
theorem step_cancelled [Broker β ρ] {now : Duration}
    (waits : shared.calls number = .reading .queueing ∨
      shared.calls number = .reading .listening) :
    shared.step (.step number now true) =
      { shared.put number (.returned (.read (.error .cancelled))) with
        reader := shared.reader.leaveChannel number } := by
  rcases waits with under | under
  · simp only [Shared.step, under, Shared.read, goOnReading, Reader.stepRead, Reader.queueRead,
      if_true]
    rw [afterRead_kept .queueing]
    rfl
  · simp only [Shared.step, under, Shared.read, goOnReading, Reader.stepRead, Reader.listen,
      if_true]
    rw [afterRead_kept .listening]
    rfl

/-- In every run of calls on one reader, and for every choice of reads that end in it as cancelled:
at each point of the run, the same run without these reads has come to the same state, with every
other call as far as it is here or ended with the same result. Only their numbers are missing from
the channel's line, and the reader may not have been started. The turns that other calls spend in
line behind them do nothing, and are not there without them; where there are no such turns, the
other run is what is left of this one. -/
theorem cancelled_untraced [Broker β ρ] (port : Nat) (consumer : Consumer) (params : SourceParams)
    (broker : β) (acts : List (Act β ρ)) (gone : Nat → Bool)
    (ended : ∀ number, gone number = true →
      ((Shared.start (Reader.fresh port consumer params) broker).run acts).calls number =
        .returned (.read (.error .cancelled))) :
    let start : Shared β ρ := .start (Reader.fresh port consumer params) broker
    (∀ before, before <+: acts →
      let shared := start.run before
      let other := start.run (without gone start before)
      Traceless gone shared other ∧
      (∀ number, gone number = false → other.calls number = shared.calls number) ∧
      other.reader.channel = shared.reader.channel ∧
      other.reader.pending = shared.reader.pending ∧
      other.broker = shared.broker ∧
      (other.reader.lifecycle = shared.reader.lifecycle ∨
        other.reader.lifecycle = .created ∧ shared.reader.lifecycle = .running) ∧
      (∀ number now,
        shared.calls number = .reading .queueing ∨ shared.calls number = .reading .listening →
        shared.step (.step number now true) =
          { shared.put number (.returned (.read (.error .cancelled))) with
            reader := shared.reader.leaveChannel number }) ∧
      (∀ fed, shared.reader.stopped = false → shared.reader.channelLine = [] →
        let (result, after) := shared.reader.read true fed
        result = some (.error .cancelled) ∧ after = { shared.reader with started := true } ∧
        after.read false fed = shared.reader.read false fed) ∧
      ∀ act, act.number?.any gone = false → behind gone shared act = true →
        shared.step act = shared) ∧
    ((∀ before act, before ++ [act] <+: acts → behind gone (start.run before) act = false) →
      without gone start acts = acts.filter (!·.number?.any gone)) := by
  intro start
  refine ⟨fun before inside => ?_, without_apart⟩
  intro shared other
  obtain ⟨rest, rfl⟩ := inside
  have empty (number : Nat) (out : gone number = true) : EmptyHanded (shared.calls number) := by
    refine EmptyHanded.run_before rest ?_
    have whole : start.run (before ++ rest) = shared.run rest := List.foldl_append
    rw [← whole, ended number out]
    exact .cancelled
  have traceless : Traceless gone shared other :=
    run_traceless ⟨false, nofun, (erase_start _ _ rfl rfl).symm⟩ empty
  obtain ⟨channel, pending, broker⟩ := traceless.kept
  refine ⟨traceless, fun number => traceless.calls, channel, pending, broker, traceless.lifecycle,
    fun number now => step_cancelled, fun fed running line => ?_, fun act => step_behind⟩
  rw [read_cancelled _ fed running line]
  exact ⟨rfl, rfl, read_restarted _ fed running⟩

/-- A read that is cancelled when a message has come, with another in line behind it. -/
def overtaken : List (Act MemoryBroker UInt64) :=
  [.call 1 .read, .step 1 ⟨0⟩ false, .step 1 ⟨0⟩ false, .call 2 .read, .step 2 ⟨0⟩ false,
    .step 2 ⟨0⟩ false, .deliver 0 seventh, .step 1 ⟨0⟩ true, .step 2 ⟨0⟩ false,
    .step 2 ⟨0⟩ false, .step 2 ⟨0⟩ false]

theorem cancelled_untraced_overtaken :
    (untouched.run overtaken).calls 1 = .returned (.read (.error .cancelled)) ∧
    ∃ record, untouched.reader.record seventh = .ok record ∧
      (untouched.run overtaken).calls 2 = .returned (.read (.ok record)) ∧
      without (· == 1) untouched overtaken = [.call 2 .read, .step 2 ⟨0⟩ false, .deliver 0 seventh,
        .step 2 ⟨0⟩ false, .step 2 ⟨0⟩ false, .step 2 ⟨0⟩ false] ∧
      (untouched.run (without (· == 1) untouched overtaken)).calls 2 =
        .returned (.read (.ok record)) := by
  have ended (number : Nat) (out : (number == 1) = true) :
      (untouched.run overtaken).calls number = .returned (.read (.error .cancelled)) := by
    obtain rfl : number = 1 := by simpa using out
    rfl
  obtain ⟨along, _⟩ := cancelled_untraced 1 tracking oneRoom MemoryBroker.fresh overtaken (· == 1)
    ended
  obtain ⟨_, calls, _⟩ := along overtaken (List.prefix_refl overtaken)
  exact ⟨ended 1 rfl, _, rfl, rfl, rfl, calls 2 rfl⟩

end StreamBridge.Proofs.CancelledReads
