import StreamBridge.Proofs.SharedSteps

/-! The gate of a shared reader. Its line names the calls that want it, and only the head of the line
may rely on the list of pending records: nobody else takes a record off it, and a record that is
noted goes to its other end. So what the broker agrees to is still first when it is taken off. -/

namespace StreamBridge.Proofs.GatedAcknowledgements
open SharedReader SharedSteps

variable {β ρ : Type}

/-- Whether a call stands in the gate's line. -/
def wantsGate (tracks : Bool) : Call ρ → Bool
  | .acknowledging _ _ .entering => false
  | .acknowledging _ _ _ => true
  | .stopping .draining => tracks
  | _ => false

/-- Whether a call has passed the gate and relies on the first record. -/
def holdsGate : Call ρ → Bool
  | .acknowledging _ _ .entering | .acknowledging _ _ .queueing => false
  | .acknowledging _ _ _ => true
  | _ => false

/-- Whether a call is between its comparison and the end: its record must stay first. -/
def settling : Call ρ → Bool
  | .acknowledging _ _ (.asking _ _) | .acknowledging _ _ .popping => true
  | _ => false

theorem wants_of_holds {call : Call ρ} (tracks : Bool) (holds : holdsGate call = true) :
    wantsGate tracks call = true := by
  cases call with
  | idle | reading | stopping | returned => cases holds
  | acknowledging token entry stage =>
    cases stage with
    | entering => cases holds
    | queueing | comparing | asking | popping => rfl

/-- The gate's line names every call that wants the gate, once; a call that has passed the gate is
the head. -/
structure Guarded (shared : Shared β ρ) : Prop where
  distinct : shared.reader.gateLine.Nodup
  wanted : ∀ number, number ∈ shared.reader.gateLine ↔
    wantsGate shared.reader.tracks (shared.calls number) = true
  held : ∀ number, holdsGate (shared.calls number) = true →
    shared.reader.gateLine.head? = some number

section guarded
variable {shared after : Shared β ρ} {number : Nat} {call : Call ρ}

theorem put_cases {other : Nat} {value : Call ρ}
    (found : (shared.put number call).calls other = value) :
    (other = number ∧ call = value) ∨ (other ≠ number ∧ shared.calls other = value) := by
  by_cases same : other = number
  · subst same
    rw [Shared.put_same] at found
    exact .inl ⟨rfl, found⟩
  · rw [Shared.put_other call shared same] at found
    exact .inr ⟨same, found⟩

theorem Guarded.alone (guarded : Guarded shared) {first second : Nat}
    (holds : holdsGate (shared.calls first) = true)
    (also : holdsGate (shared.calls second) = true) : first = second :=
  Option.some.inj ((guarded.held first holds).symm.trans (guarded.held second also))

theorem Guarded.stay (guarded : Guarded shared)
    (calls : after.calls = (shared.put number call).calls)
    (line : after.reader.gateLine = shared.reader.gateLine)
    (tracks : after.reader.tracks = shared.reader.tracks)
    (wants : wantsGate shared.reader.tracks call =
      wantsGate shared.reader.tracks (shared.calls number))
    (head : holdsGate call = true → shared.reader.gateLine.head? = some number) :
    Guarded after := by
  refine ⟨line ▸ guarded.distinct, ?_, ?_⟩
  · intro other
    rw [line, tracks, calls, guarded.wanted]
    by_cases same : other = number
    · rw [same, Shared.put_same, wants]
    · rw [Shared.put_other call shared same]
  · intro other holds
    rw [line]
    rw [calls] at holds
    by_cases same : other = number
    · rw [same, Shared.put_same] at holds
      rw [same]
      exact head holds
    · rw [Shared.put_other call shared same] at holds
      exact guarded.held other holds

theorem Guarded.join (guarded : Guarded shared)
    (calls : after.calls = (shared.put number call).calls)
    (line : after.reader.gateLine = shared.reader.gateLine ++ [number])
    (tracks : after.reader.tracks = shared.reader.tracks)
    (out : wantsGate shared.reader.tracks (shared.calls number) = false)
    (wants : wantsGate shared.reader.tracks call = true)
    (waits : holdsGate call = false) : Guarded after := by
  have absent : number ∉ shared.reader.gateLine := by
    rw [guarded.wanted, out]
    exact Bool.false_ne_true
  refine ⟨?_, ?_, ?_⟩
  · rw [line, List.nodup_append]
    refine ⟨guarded.distinct, by simp, ?_⟩
    rintro other listed _ last rfl
    exact absent (List.mem_singleton.mp last ▸ listed)
  · intro other
    rw [line, tracks, calls, List.mem_append, List.mem_singleton, guarded.wanted]
    by_cases same : other = number
    · rw [same, Shared.put_same]
      exact ⟨fun _ => wants, fun _ => .inr rfl⟩
    · rw [Shared.put_other call shared same]
      exact ⟨fun either => either.resolve_right same, .inl⟩
  · intro other holds
    rw [calls] at holds
    by_cases same : other = number
    · rw [same, Shared.put_same, waits] at holds
      cases holds
    · rw [Shared.put_other call shared same] at holds
      rw [line, List.head?_append, guarded.held other holds]
      rfl

theorem Guarded.leave (guarded : Guarded shared)
    (calls : after.calls = (shared.put number call).calls)
    (line : after.reader.gateLine = shared.reader.gateLine.filter (· != number))
    (tracks : after.reader.tracks = shared.reader.tracks)
    (head : shared.reader.gateLine.head? = some number)
    (out : wantsGate shared.reader.tracks call = false) : Guarded after := by
  refine ⟨line ▸ guarded.distinct.filter _, ?_, ?_⟩
  · intro other
    rw [line, tracks, calls, List.mem_filter, guarded.wanted]
    by_cases same : other = number
    · rw [same, Shared.put_same, out]
      simp
    · rw [Shared.put_other call shared same]
      simp [same]
  · intro other holds
    rw [calls] at holds
    rcases put_cases rfl with ⟨same, found⟩ | ⟨apart, found⟩
    · rw [← found] at holds
      rw [wants_of_holds _ holds] at out
      cases out
    · rw [← found] at holds
      -- Nobody but the call that leaves was the head, so nobody else relied on it.
      exact absurd (Option.some.inj ((guarded.held other holds).symm.trans head)) apart

end guarded

/-- What stands in the history agrees with the list. While a call is between its comparison and the
end, the record it is about is the first of the list. -/
structure Orderly (shared : Shared β ρ) : Prop where
  guarded : Guarded shared
  queued : shared.reader.pending = shared.noted.drop shared.gone
  asking : ∀ number token entry due delivery,
    shared.calls number = .acknowledging token entry (.asking due delivery) →
    entry = shared.gone ∧ shared.reader.pending.head? = some ⟨token, delivery⟩
  popping : ∀ number token entry, shared.calls number = .acknowledging token entry .popping →
    entry = shared.gone ∧ shared.agreed = shared.popped ++ [shared.gone] ∧
    ∃ delivery, shared.reader.pending.head? = some ⟨token, delivery⟩
  settled : (∀ number token entry, shared.calls number ≠ .acknowledging token entry .popping) →
    shared.agreed = shared.popped
  left : (shared.popped ++ shared.forgotten).Perm (List.range shared.gone)

theorem Orderly.bound {shared : Shared β ρ} (orderly : Orderly shared) :
    shared.gone + shared.reader.pending.length = shared.noted.length := by
  have dropped := congrArg List.length orderly.queued
  rw [List.length_drop] at dropped
  unfold Shared.gone at *
  omega

/-- The first record of the list would be the next to have left. -/
theorem Orderly.next_left {shared : Shared β ρ} (orderly : Orderly shared) :
    (shared.popped ++ [shared.gone] ++ shared.forgotten).Perm (List.range (shared.gone + 1)) := by
  have moved : (shared.popped ++ [shared.gone] ++ shared.forgotten).Perm
      (shared.popped ++ shared.forgotten ++ [shared.gone]) := by
    rw [List.append_assoc, List.append_assoc]
    exact List.perm_append_comm.append_left shared.popped
  rw [List.range_succ]
  exact moved.trans (orderly.left.append_right [shared.gone])

section orderly
variable {shared after : Shared β ρ} {number : Nat} {call : Call ρ}

/-- A record that is noted goes to the other end of the list. -/
theorem Orderly.note (orderly : Orderly shared) (more : List (Pending ρ))
    (calls : after.calls = (shared.put number call).calls)
    (pending : after.reader.pending = shared.reader.pending ++ more)
    (noted : after.noted = shared.noted ++ more) (agreed : after.agreed = shared.agreed)
    (popped : after.popped = shared.popped) (forgotten : after.forgotten = shared.forgotten)
    (guarded : Guarded after) (apart : settling call = false)
    (was : ∀ token entry, shared.calls number ≠ .acknowledging token entry .popping) :
    Orderly after := by
  have bound := orderly.bound
  have gone : after.gone = shared.gone := by
    rw [Shared.gone, pending, noted, List.length_append, List.length_append]
    unfold Shared.gone at *
    omega
  have first (head : Pending ρ) (found : shared.reader.pending.head? = some head) :
      after.reader.pending.head? = some head := by
    rw [pending, List.head?_append, found]
    rfl
  refine ⟨guarded, ?_, ?_, ?_, ?_, ?_⟩
  · rw [pending, noted, gone, List.drop_append_of_le_length (by omega), ← orderly.queued]
  · intro other token entry due delivery found
    rw [calls] at found
    rcases put_cases found with ⟨-, rfl⟩ | ⟨-, found⟩
    · cases apart
    · obtain ⟨same, head⟩ := orderly.asking other token entry due delivery found
      exact ⟨same.trans gone.symm, first _ head⟩
  · intro other token entry found
    rw [calls] at found
    rcases put_cases found with ⟨-, rfl⟩ | ⟨-, found⟩
    · cases apart
    · obtain ⟨same, agrees, delivery, head⟩ := orderly.popping other token entry found
      rw [gone, agreed, popped]
      exact ⟨same, agrees, delivery, first _ head⟩
  · intro none
    rw [agreed, popped]
    apply orderly.settled
    intro other token entry found
    by_cases same : other = number
    · exact was token entry (same ▸ found)
    · apply none other token entry
      rw [calls, Shared.put_other call shared same, found]
  · rw [popped, forgotten, gone]
    exact orderly.left

/-- A call that moves, but neither into nor out of a settlement, changes nothing in the books. -/
theorem Orderly.aside (orderly : Orderly shared)
    (calls : after.calls = (shared.put number call).calls)
    (pending : after.reader.pending = shared.reader.pending) (noted : after.noted = shared.noted)
    (agreed : after.agreed = shared.agreed) (popped : after.popped = shared.popped)
    (forgotten : after.forgotten = shared.forgotten) (guarded : Guarded after)
    (apart : settling call = false)
    (was : ∀ token entry, shared.calls number ≠ .acknowledging token entry .popping) :
    Orderly after :=
  orderly.note [] calls (pending.trans (List.append_nil _).symm)
    (noted.trans (List.append_nil _).symm) agreed popped forgotten guarded apart was

theorem Orderly.enter (orderly : Orderly shared) (free : shared.calls number = .idle)
    (enters : Enters shared number after) : Orderly after := by
  have was : ∀ token entry, shared.calls number ≠ .acknowledging token entry .popping := by
    simp [free]
  have out : wantsGate shared.reader.tracks (shared.calls number) = false := by
    rw [free]
    rfl
  cases enters with
  | ended | reading | acknowledging | stopping =>
    exact orderly.aside rfl rfl rfl rfl rfl rfl (orderly.guarded.stay rfl rfl rfl out.symm nofun)
      rfl was

theorem Orderly.read (orderly : Orderly shared) {stage : ReadStage ρ}
    (under : shared.calls number = .reading stage) (reads : Reads shared number stage after) :
    Orderly after := by
  have was : ∀ token entry, shared.calls number ≠ .acknowledging token entry .popping := by
    simp [under]
  have out : wantsGate shared.reader.tracks (shared.calls number) = false := by
    rw [under]
    rfl
  cases reads with
  | queued | waited => exact orderly
  | joined | reached | gaveUp | took | dropped =>
    exact orderly.aside rfl rfl rfl rfl rfl rfl (orderly.guarded.stay rfl rfl rfl out.symm nofun)
      rfl was
  | handedOut message record readable =>
    exact orderly.note _ rfl rfl rfl rfl rfl rfl (orderly.guarded.stay rfl rfl rfl out.symm nofun)
      rfl was

theorem Orderly.ask (orderly : Orderly shared) {token : Token} {entry : Nat}
    (under : shared.calls number = .acknowledging token entry .comparing) (due : Duration)
    (delivery : Delivery ρ) (head : shared.reader.pending.head? = some ⟨token, delivery⟩) :
    Orderly (shared.put number (.acknowledging token shared.gone (.asking due delivery))) := by
  have holds : holdsGate (shared.calls number) = true := by
    rw [under]
    rfl
  refine ⟨?_, orderly.queued, ?_, ?_, ?_, orderly.left⟩
  · refine orderly.guarded.stay rfl rfl rfl ?_ fun _ => orderly.guarded.held number holds
    rw [under]
    rfl
  · intro other requested about since asked found
    rcases put_cases found with ⟨-, same⟩ | ⟨-, found⟩
    · cases same
      exact ⟨rfl, head⟩
    · exact orderly.asking other requested about since asked found
  · intro other requested about found
    rcases put_cases found with ⟨-, same⟩ | ⟨-, found⟩
    · cases same
    · exact orderly.popping other requested about found
  · intro none
    apply orderly.settled
    intro other requested about found
    by_cases same : other = number
    · rw [same, under] at found
      cases found
    · apply none other requested about
      rw [Shared.put_other _ shared same, found]

/-- While the broker is asked, it has agreed to no more than what is off the list. -/
theorem Orderly.unsettled (orderly : Orderly shared) {token : Token} {entry : Nat} {due : Duration}
    {delivery : Delivery ρ}
    (under : shared.calls number = .acknowledging token entry (.asking due delivery)) :
    shared.agreed = shared.popped := by
  apply orderly.settled
  intro other requested about found
  have same : other = number := orderly.guarded.alone (by rw [found]; rfl) (by rw [under]; rfl)
  rw [same, under] at found
  cases found

theorem Orderly.agree (orderly : Orderly shared) {token : Token} {entry : Nat} {due : Duration}
    {delivery : Delivery ρ} (broker : β)
    (under : shared.calls number = .acknowledging token entry (.asking due delivery)) :
    Orderly { shared.put number (.acknowledging token entry .popping) with
      broker := broker
      agreed := shared.agreed ++ [entry] } := by
  have holds : holdsGate (shared.calls number) = true := by
    rw [under]
    rfl
  obtain ⟨about, head⟩ := orderly.asking number token entry due delivery under
  have agreed := orderly.unsettled under
  refine ⟨?_, orderly.queued, ?_, ?_, ?_, orderly.left⟩
  · refine orderly.guarded.stay rfl rfl rfl ?_ fun _ => orderly.guarded.held number holds
    rw [under]
    rfl
  · intro other requested entry since asked found
    rcases put_cases found with ⟨-, same⟩ | ⟨-, found⟩
    · cases same
    · exact orderly.asking other requested entry since asked found
  · intro other requested entry found
    rcases put_cases found with ⟨-, same⟩ | ⟨apart, found⟩
    · cases same
      exact ⟨about, by rw [agreed, about]; rfl, delivery, head⟩
    · exact absurd (orderly.guarded.alone (by rw [found]; rfl) holds) apart
  · intro none
    exact absurd (Shared.put_same number _ shared) (none number token entry)

/-- The record that is taken off the list is the one that the broker has agreed to. -/
theorem Orderly.pop (orderly : Orderly shared) {token : Token} {entry : Nat}
    (under : shared.calls number = .acknowledging token entry .popping) {head : Pending ρ}
    {rest : List (Pending ρ)} (pending : shared.reader.pending = head :: rest) :
    Orderly { shared.put number (.returned (.acknowledged (.ok ()))) with
      reader := { shared.reader.leaveGate number with pending := rest }
      popped := shared.popped ++ [shared.gone] } := by
  have holds : holdsGate (shared.calls number) = true := by
    rw [under]
    rfl
  have alone (other : Nat) (apart : other ≠ number) : holdsGate (shared.calls other) = false :=
    Bool.eq_false_iff.mpr fun also => apart (orderly.guarded.alone also holds)
  obtain ⟨-, agreed, -⟩ := orderly.popping number token entry under
  have bound := orderly.bound
  have gone : shared.noted.length - rest.length = shared.gone + 1 := by
    rw [pending, List.length_cons] at bound
    omega
  refine ⟨?_, ?_, ?_, ?_, ?_, ?_⟩
  · exact orderly.guarded.leave rfl rfl rfl (orderly.guarded.held number holds) rfl
  · change rest = shared.noted.drop (shared.noted.length - rest.length)
    rw [gone, ← List.drop_drop, ← orderly.queued, pending]
    rfl
  · intro other requested about since asked found
    rcases put_cases found with ⟨-, same⟩ | ⟨apart, found⟩
    · cases same
    · have idle := alone other apart
      rw [found] at idle
      cases idle
  · intro other requested about found
    rcases put_cases found with ⟨-, same⟩ | ⟨apart, found⟩
    · cases same
    · have idle := alone other apart
      rw [found] at idle
      cases idle
  · intro _
    exact agreed
  · change (shared.popped ++ [shared.gone] ++ shared.forgotten).Perm
      (List.range (shared.noted.length - rest.length))
    rw [gone]
    exact orderly.next_left

theorem Orderly.acknowledge [Broker β ρ] (orderly : Orderly shared) {token : Token} {entry : Nat}
    {now : Duration} {stage : AckStage ρ}
    (under : shared.calls number = .acknowledging token entry stage)
    (acknowledges : Acknowledges shared number token entry now stage after) : Orderly after := by
  have held (holds : holdsGate (.acknowledging token entry stage) = true) :
      shared.reader.gateLine.head? = some number :=
    orderly.guarded.held number (by rw [under]; exact holds)
  cases acknowledges with
  | queued | waited => exact orderly
  | joined =>
    refine orderly.aside rfl rfl rfl rfl rfl rfl ?_ rfl (by simp [under])
    exact orderly.guarded.join rfl rfl rfl (by rw [under]; rfl) rfl rfl
  | reached head =>
    refine orderly.aside rfl rfl rfl rfl rfl rfl ?_ rfl (by simp [under])
    exact orderly.guarded.stay rfl rfl rfl (by rw [under]; rfl) fun _ => head
  | rejected error =>
    refine orderly.aside rfl rfl rfl rfl rfl rfl ?_ rfl (by simp [under])
    exact orderly.guarded.leave rfl rfl rfl (held rfl) rfl
  | asked due delivery head => exact orderly.ask under due delivery head
  | refused due delivery error broker late answered =>
    refine orderly.aside rfl rfl rfl rfl rfl rfl ?_ rfl (by simp [under])
    exact orderly.guarded.leave rfl rfl rfl (held rfl) rfl
  | agreed due delivery broker late answered => exact orderly.agree broker under
  | popped head rest pending => exact orderly.pop under pending
  | poppedNothing pending =>
    obtain ⟨-, -, delivery, head⟩ := orderly.popping number token entry under
    rw [pending] at head
    cases head

/-- A stop takes whatever is on the list, with no settlement under way. -/
theorem Orderly.drain (orderly : Orderly shared)
    (under : shared.calls number = .stopping .draining)
    (head : shared.reader.gateLine.head? = some number) :
    Orderly { shared.put number (.stopping .deleting) with
      reader := { shared.reader.leaveGate number with pending := [] }
      forgotten := shared.forgotten ++
        List.range' shared.gone shared.reader.pending.length } := by
  have alone (other : Nat) : holdsGate (shared.calls other) = false := by
    refine Bool.eq_false_iff.mpr fun holds => ?_
    have same := Option.some.inj ((orderly.guarded.held other holds).symm.trans head)
    rw [same, under] at holds
    cases holds
  have bound := orderly.bound
  refine ⟨?_, ?_, ?_, ?_, ?_, ?_⟩
  · exact orderly.guarded.leave rfl rfl rfl head rfl
  · change [] = shared.noted.drop (shared.noted.length - 0)
    rw [Nat.sub_zero, List.drop_length]
  · intro other requested about since asked found
    rcases put_cases found with ⟨-, same⟩ | ⟨-, found⟩
    · cases same
    · have idle := alone other
      rw [found] at idle
      cases idle
  · intro other requested about found
    rcases put_cases found with ⟨-, same⟩ | ⟨-, found⟩
    · cases same
    · have idle := alone other
      rw [found] at idle
      cases idle
  · intro _
    apply orderly.settled
    intro other requested about found
    have idle := alone other
    rw [found] at idle
    cases idle
  · change (shared.popped ++ (shared.forgotten ++ List.range' shared.gone _)).Perm
      (List.range (shared.noted.length - 0))
    rw [Nat.sub_zero, ← bound, ← List.append_assoc]
    refine (orderly.left.append_right _).trans (.of_eq ?_)
    rw [List.range_eq_range', List.range_eq_range', ← List.range'_append_1, Nat.zero_add]

theorem Orderly.stop (orderly : Orderly shared) {stage : StopStage}
    (under : shared.calls number = .stopping stage) (stops : Stops shared number stage after) :
    Orderly after := by
  have was : ∀ token entry, shared.calls number ≠ .acknowledging token entry .popping := by
    simp [under]
  cases stops with
  | queued | gated => exact orderly
  | marked | unsubscribed | closedUntracked | untracked | deleted | disconnected | failed =>
    refine orderly.aside rfl rfl rfl rfl rfl rfl ?_ rfl was
    refine orderly.guarded.stay rfl rfl rfl ?_ nofun
    simp_all [wantsGate]
  | closed tracks =>
    refine orderly.aside rfl rfl rfl rfl rfl rfl ?_ rfl was
    exact orderly.guarded.join rfl rfl rfl (by rw [under]; rfl) tracks rfl
  | drained tracks head => exact orderly.drain under head

theorem Orderly.step [Broker β ρ] (orderly : Orderly shared) (act : Act β ρ) :
    Orderly (shared.step act) := by
  generalize taken : shared.step act = after
  cases taken ▸ step_cases shared act with
  | still => exact orderly
  | entered number task free enters => exact orderly.enter free enters
  | read number now cancelled under reads => exact orderly.read under reads
  | acknowledged number now cancelled under acknowledges =>
    exact orderly.acknowledge under acknowledges
  | stopped number now cancelled under stops => exact orderly.stop under stops
  | channel | broker =>
    exact ⟨⟨orderly.guarded.distinct, orderly.guarded.wanted, orderly.guarded.held⟩,
      orderly.queued, orderly.asking, orderly.popping, orderly.settled, orderly.left⟩

theorem Orderly.fresh (port : Nat) (consumer : Consumer) (params : SourceParams) (broker : β) :
    Orderly (Shared.start (Reader.fresh port consumer params : Reader ρ) broker) := by
  refine ⟨⟨List.nodup_nil, ?_, ?_⟩, rfl, ?_, ?_, fun _ => rfl, List.Perm.refl []⟩
  all_goals simp [Shared.start, Reader.fresh, wantsGate, holdsGate]

theorem Orderly.run [Broker β ρ] (orderly : Orderly shared) (acts : List (Act β ρ)) :
    Orderly (shared.run acts) :=
  Shared.run_invariant Orderly (fun _ act kept => kept.step act) orderly acts

end orderly
end StreamBridge.Proofs.GatedAcknowledgements
