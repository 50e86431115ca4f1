import StreamBridge.Proofs.SharedSteps

/-! What a stop of a shared reader puts an end to. No read is let in once the reader is marked as
stopped, but a read that is under way goes on: it may take what the closed channel still holds, or
note what it has taken, after the stop has forgotten what was pending. -/

namespace StreamBridge.Proofs.FinalStop
open SharedReader SharedSteps ReaderCalls

variable {β ρ : Type}

/-- What holds of every shared reader: a stop that has begun has marked it, and a reader that does
not track has nothing pending. -/
structure Marked (shared : Shared β ρ) : Prop where
  stopped : ∀ number stage, shared.calls number = .stopping stage → stage ≠ .entering →
    shared.reader.stopped = true
  untracked : shared.reader.tracks = false → shared.reader.pending = []

/-- What holds of a shared reader from the moment that a stop forgets what is pending: every read
under way and every new record are those of a read that was under way then. -/
structure Winding (drained shared : Shared β ρ) : Prop where
  stopped : shared.reader.stopped = true
  reading : ∀ number stage, shared.calls number = .reading stage →
    ∃ earlier, drained.calls number = .reading earlier
  returned : ∀ number record, shared.calls number = .returned (.read (.ok record)) →
    drained.calls number = .returned (.read (.ok record)) ∨
    ∃ earlier, drained.calls number = .reading earlier
  pending : ∀ entry ∈ shared.reader.pending, ∃ number earlier record,
    drained.calls number = .reading earlier ∧
    shared.calls number = .returned (.read (.ok record)) ∧ record.position = entry.token

section steps
variable {drained shared after : Shared β ρ} {number : Nat} {call : Call ρ}

/-- A call that moves keeps the mark, if it sets it where it has to. -/
theorem Marked.aside (marked : Marked shared)
    (calls : after.calls = (shared.put number call).calls)
    (kept : shared.reader.stopped = true → after.reader.stopped = true)
    (tracks : after.reader.tracks = shared.reader.tracks)
    (fewer : shared.reader.tracks = false → shared.reader.pending = [] →
      after.reader.pending = [])
    (begun : ∀ stage, call = .stopping stage → stage ≠ .entering → after.reader.stopped = true) :
    Marked after := by
  refine ⟨?_, ?_⟩
  · intro other stage found later
    rw [calls] at found
    by_cases same : other = number
    · rw [same, Shared.put_same] at found
      exact begun stage found later
    · rw [Shared.put_other call shared same] at found
      exact kept (marked.stopped other stage found later)
  · intro untracked
    rw [tracks] at untracked
    exact fewer untracked (marked.untracked untracked)

theorem Marked.stop (marked : Marked shared) {stage : StopStage}
    (under : shared.calls number = .stopping stage) (stops : Stops shared number stage after) :
    Marked after := by
  have stopped (later : stage ≠ .entering) : shared.reader.stopped = true :=
    marked.stopped number stage under later
  cases stops with
  | queued | gated => exact marked
  | marked => exact marked.aside rfl (fun _ => rfl) rfl (fun _ => id) fun _ _ _ => rfl
  | failed => exact marked.aside rfl id rfl (fun _ => id) fun _ => nofun
  | disconnected => exact marked.aside rfl id rfl (fun _ => id) fun _ => nofun
  | unsubscribed | closed | closedUntracked | untracked | deleted =>
    exact marked.aside rfl id rfl (fun _ => id) fun _ _ _ => stopped nofun
  | drained => exact marked.aside rfl id rfl (fun _ _ => rfl) fun _ _ _ => stopped nofun

theorem Marked.step [Broker β ρ] (marked : Marked shared) (act : Act β ρ) :
    Marked (shared.step act) := by
  generalize stepped : shared.step act = after
  cases stepped ▸ step_cases shared act with
  | still => exact marked
  | channel | broker => exact ⟨marked.stopped, marked.untracked⟩
  | entered number task free enters =>
    cases enters with
    | ended | reading | acknowledging =>
      exact marked.aside rfl id rfl (fun _ => id) fun _ => nofun
    | stopping =>
      refine marked.aside rfl id rfl (fun _ => id) fun stage same later => ?_
      cases same
      exact absurd rfl later
  | read number now cancelled under reads =>
    cases reads with
    | queued | waited => exact marked
    | joined | reached | gaveUp | took | dropped =>
      exact marked.aside rfl id rfl (fun _ => id) fun _ => nofun
    | handedOut =>
      refine marked.aside rfl id rfl (fun untracked none => ?_) fun _ => nofun
      rw [none, untracked]
      rfl
  | acknowledged number now cancelled under acknowledges =>
    cases acknowledges with
    | queued | waited => exact marked
    | joined | reached | rejected | asked | refused | agreed =>
      exact marked.aside rfl id rfl (fun _ => id) fun _ => nofun
    | poppedNothing => exact marked.aside rfl id rfl (fun _ _ => rfl) fun _ => nofun
    | popped head rest pending =>
      refine marked.aside rfl id rfl (fun _ none => ?_) fun _ => nofun
      rw [pending] at none
      cases none
  | stopped number now cancelled under stops => exact marked.stop under stops

/-- A call that moves brings nothing new, unless it was a read under way when the stop drained. -/
theorem Winding.aside (winding : Winding drained shared)
    (calls : after.calls = (shared.put number call).calls)
    (stopped : after.reader.stopped = true)
    (moves : ∀ record, shared.calls number ≠ .returned (.read (.ok record)))
    (reading : ∀ stage, call = .reading stage → ∃ earlier, drained.calls number = .reading earlier)
    (returned : ∀ record, call = .returned (.read (.ok record)) →
      ∃ earlier, drained.calls number = .reading earlier)
    (pending : ∀ entry ∈ after.reader.pending, entry ∈ shared.reader.pending ∨
      ∃ record, call = .returned (.read (.ok record)) ∧ record.position = entry.token) :
    Winding drained after := by
  refine ⟨stopped, ?_, ?_, ?_⟩
  · intro other stage found
    rw [calls] at found
    by_cases same : other = number
    · rw [same, Shared.put_same] at found
      exact same ▸ reading stage found
    · rw [Shared.put_other call shared same] at found
      exact winding.reading other stage found
  · intro other record found
    rw [calls] at found
    by_cases same : other = number
    · rw [same, Shared.put_same] at found
      exact .inr (same ▸ returned record found)
    · rw [Shared.put_other call shared same] at found
      exact winding.returned other record found
  · intro entry listed
    rcases pending entry listed with before | ⟨record, rfl, token⟩
    · obtain ⟨other, earlier, record, late, found, token⟩ := winding.pending entry before
      have apart : other ≠ number := by
        rintro rfl
        exact moves record found
      refine ⟨other, earlier, record, late, ?_, token⟩
      rw [calls, Shared.put_other call shared apart, found]
    · obtain ⟨earlier, late⟩ := returned record rfl
      refine ⟨number, earlier, record, late, ?_, token⟩
      rw [calls, Shared.put_same]

theorem Winding.read (winding : Winding drained shared) {stage : ReadStage ρ}
    (under : shared.calls number = .reading stage) (reads : Reads shared number stage after) :
    Winding drained after := by
  have moves : ∀ record, shared.calls number ≠ .returned (.read (.ok record)) := by simp [under]
  have late := winding.reading number stage under
  cases reads with
  | queued | waited => exact winding
  | joined | reached | took | gaveUp | dropped =>
    exact winding.aside rfl winding.stopped moves (fun _ _ => late) (fun _ _ => late)
      fun _ => .inl
  | handedOut message record readable =>
    refine winding.aside rfl winding.stopped moves (fun _ _ => late) (fun _ _ => late) ?_
    intro entry listed
    rcases List.mem_append.mp listed with before | noted
    · exact .inl before
    · refine .inr ⟨record, rfl, ?_⟩
      split at noted
      next => rw [List.mem_singleton.mp noted]
      next => cases noted

theorem Winding.step [Broker β ρ] (winding : Winding drained shared) (act : Act β ρ) :
    Winding drained (shared.step act) := by
  generalize stepped : shared.step act = after
  cases stepped ▸ step_cases shared act with
  | still => exact winding
  | channel | broker => exact ⟨winding.stopped, winding.reading, winding.returned, winding.pending⟩
  | entered number task free enters =>
    have moves : ∀ record, shared.calls number ≠ .returned (.read (.ok record)) := by simp [free]
    cases enters with
    | ended result empty =>
      refine winding.aside rfl winding.stopped moves (fun _ => nofun) ?_ fun _ => .inl
      intro record same
      cases same
      exact absurd rfl (empty record)
    | reading running =>
      rw [winding.stopped] at running
      cases running
    | acknowledging | stopping =>
      exact winding.aside rfl winding.stopped moves (fun _ => nofun) (fun _ => nofun) fun _ => .inl
  | read number now cancelled under reads => exact winding.read under reads
  | acknowledged number now cancelled under acknowledges =>
    have moves : ∀ record, shared.calls number ≠ .returned (.read (.ok record)) := by simp [under]
    cases acknowledges with
    | queued | waited => exact winding
    | joined | reached | rejected | asked | refused | agreed =>
      exact winding.aside rfl winding.stopped moves (fun _ => nofun) (fun _ => nofun) fun _ => .inl
    | popped head rest pending =>
      refine winding.aside rfl winding.stopped moves (fun _ => nofun) (fun _ => nofun) ?_
      intro entry listed
      exact .inl (pending ▸ .tail head listed)
    | poppedNothing =>
      exact winding.aside rfl winding.stopped moves (fun _ => nofun) (fun _ => nofun) fun _ => nofun
  | stopped number now cancelled under stops =>
    have moves : ∀ record, shared.calls number ≠ .returned (.read (.ok record)) := by simp [under]
    cases stops with
    | queued | gated => exact winding
    | marked =>
      exact winding.aside rfl rfl moves (fun _ => nofun) (fun _ => nofun) fun _ => .inl
    | unsubscribed | failed | closed | closedUntracked | untracked | deleted | disconnected =>
      exact winding.aside rfl winding.stopped moves (fun _ => nofun) (fun _ => nofun) fun _ => .inl
    | drained =>
      exact winding.aside rfl winding.stopped moves (fun _ => nofun) (fun _ => nofun) fun _ => nofun

theorem Winding.run [Broker β ρ] (winding : Winding drained shared) (acts : List (Act β ρ)) :
    Winding drained (shared.run acts) :=
  Shared.run_invariant (Winding drained) (fun _ act kept => kept.step act) winding acts

/-- A stop that gets past its drain leaves nothing pending, in a reader that it has marked. -/
theorem Marked.empties [Broker β ρ] (marked : Marked shared) {stop : Nat} {now : Duration}
    {cancelled : Bool} (under : shared.calls stop = .stopping .draining)
    (passed : (shared.step (.step stop now cancelled)).calls stop = .stopping .deleting) :
    (shared.step (.step stop now cancelled)).reader.stopped = true ∧
      (shared.step (.step stop now cancelled)).reader.pending = [] := by
  have stopped := marked.stopped stop .draining under nofun
  have stops := stop_cases under
  simp only [Shared.step, under] at passed ⊢
  generalize shared.stop stop .draining = after at stops passed ⊢
  cases stops with
  | gated =>
    rw [under] at passed
    cases passed
  | failed _ error broker apart => exact absurd rfl apart
  | untracked tracks => exact ⟨stopped, marked.untracked tracks⟩
  | drained tracks head => exact ⟨stopped, rfl⟩

end steps

/-- Once a stop has forgotten what is pending, nothing comes after it but what reads bring that were
under way at that moment: every record returned later, and every record pending later, is that of
such a read. Where no read was under way, no record is returned any more and nothing is pending. -/
theorem stop_final [Broker β ρ] (port : Nat) (consumer : Consumer) (params : SourceParams)
    (broker : β) (before : List (Act β ρ)) (stop : Nat) (now : Duration) (cancelled : Bool) :
    let shared := (Shared.start (Reader.fresh port consumer params) broker).run before
    let drained := shared.step (.step stop now cancelled)
    shared.calls stop = .stopping .draining → drained.calls stop = .stopping .deleting →
    ∀ acts,
      (∀ number record, (drained.run acts).calls number = .returned (.read (.ok record)) →
        drained.calls number = .returned (.read (.ok record)) ∨
        ∃ stage, drained.calls number = .reading stage) ∧
      (∀ entry ∈ (drained.run acts).reader.pending, ∃ number stage record,
        drained.calls number = .reading stage ∧
        (drained.run acts).calls number = .returned (.read (.ok record)) ∧
        record.position = entry.token) ∧
      ((∀ number stage, drained.calls number ≠ .reading stage) →
        (drained.run acts).reader.pending = []) := by
  intro shared drained under passed acts
  have fresh : Marked (Shared.start (Reader.fresh port consumer params : Reader ρ) broker) :=
    ⟨fun _ _ => nofun, fun _ => rfl⟩
  have marked : Marked shared :=
    Shared.run_invariant Marked (fun _ act kept => kept.step act) fresh before
  obtain ⟨stopped, none⟩ := marked.empties under passed
  have winding : Winding drained drained := by
    refine ⟨stopped, fun _ stage found => ⟨stage, found⟩, fun _ _ => .inl, ?_⟩
    intro entry listed
    rw [none] at listed
    cases listed
  have later := winding.run acts
  refine ⟨later.returned, later.pending, ?_⟩
  intro idle
  refine List.eq_nil_iff_forall_not_mem.mpr fun entry listed => ?_
  obtain ⟨number, stage, record, late, -⟩ := later.pending entry listed
  exact idle number stage late

/-- A read that is over before the stop begins. -/
def beforeStop : List (Act MemoryBroker UInt64) :=
  [.deliver 0 seventh, .call 1 .read, .step 1 ⟨0⟩ false, .step 1 ⟨0⟩ false, .step 1 ⟨0⟩ false,
    .step 1 ⟨0⟩ false, .call 2 .stop, .step 2 ⟨0⟩ false, .step 2 ⟨0⟩ false, .step 2 ⟨0⟩ false]

/-- A read that is called after the drain, while the stop comes to its end. -/
def afterDrain : List (Act MemoryBroker UInt64) :=
  [.call 3 .read, .step 2 ⟨0⟩ false, .step 3 ⟨0⟩ false, .step 2 ⟨0⟩ false]

theorem stop_final_after_read :
    (untouched.run beforeStop).calls 2 = .stopping .draining ∧
    ((untouched.run beforeStop).step (.step 2 ⟨0⟩ false)).calls 2 = .stopping .deleting ∧
    (((untouched.run beforeStop).step (.step 2 ⟨0⟩ false)).run afterDrain).calls 2 =
      .returned (.stopped (.ok ())) ∧
    (((untouched.run beforeStop).step (.step 2 ⟨0⟩ false)).run afterDrain).reader.pending = [] := by
  have final := stop_final 1 tracking oneRoom MemoryBroker.fresh beforeStop 2 ⟨0⟩ false rfl rfl
    afterDrain
  refine ⟨rfl, rfl, rfl, final.2.2 fun number stage found => ?_⟩
  by_cases first : number = 1
  · subst first
    cases found
  · by_cases second : number = 2
    · subst second
      cases found
    · have idle : (untouched.run beforeStop).calls number = .idle := by
        refine run_apart untouched ?_
        simp [beforeStop, Act.number?, Ne.symm first, Ne.symm second]
      rw [step_apart _ (by simpa [Act.number?] using Ne.symm second)] at found
      cases idle.symm.trans found

/-- A read that has taken its message when a stop begins, and notes it when the stop is over. -/
def overtaken : List (Act MemoryBroker UInt64) :=
  [.deliver 0 seventh, .call 1 .read, .step 1 ⟨0⟩ false, .step 1 ⟨0⟩ false, .step 1 ⟨0⟩ false,
    .call 2 .stop, .step 2 ⟨0⟩ false, .step 2 ⟨0⟩ false, .step 2 ⟨0⟩ false, .step 2 ⟨0⟩ false,
    .step 2 ⟨0⟩ false, .step 2 ⟨0⟩ false]

/-- The stop has succeeded and nothing is pending; then a read returns a record, which is pending
for good, since a stopped reader takes no acknowledgement. -/
theorem stop_overtaken :
    (untouched.run overtaken).calls 2 = .returned (.stopped (.ok ())) ∧
    (untouched.run overtaken).reader.pending = [] ∧
    ∃ record, untouched.reader.record seventh = .ok record ∧
      ((untouched.run overtaken).step (.step 1 ⟨0⟩ false)).calls 1 =
        .returned (.read (.ok record)) ∧
      ((untouched.run overtaken).step (.step 1 ⟨0⟩ false)).reader.pending =
        [⟨record.position, seventh⟩] ∧
      ((((untouched.run overtaken).step (.step 1 ⟨0⟩ false)).reader.acknowledge record.position
        (untouched.run overtaken).broker).1.1 = some (.error .stopped)) := by
  refine ⟨rfl, rfl, _, rfl, rfl, rfl, ?_⟩
  rw [acknowledge_alone _ _ _ rfl]
  rfl

end StreamBridge.Proofs.FinalStop
