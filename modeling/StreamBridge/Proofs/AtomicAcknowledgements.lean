import StreamBridge.Proofs.GatedAcknowledgements

/-! What the gate is for: acknowledgements of a shared reader are atomic. However many calls are made
on it, and whatever the order of their steps, each record leaves the list of pending ones once,
by the acknowledgement that the broker has agreed to or by a stop. -/

namespace StreamBridge.Proofs.AtomicAcknowledgements
open SharedReader SharedSteps GatedAcknowledgements

variable {β ρ : Type}

/-- Whether the broker is being asked on behalf of a call. -/
def asks (call : Call ρ) : Prop :=
  ∃ token entry due delivery, call = .acknowledging token entry (.asking due delivery)

/-- How acknowledgements go on a shared reader: one at a time, each about the first record of the
list, and each record leaves the list in one way only. -/
structure Atomic [Broker β ρ] (shared : Shared β ρ) : Prop where
  single : ∀ first second, asks (shared.calls first) → asks (shared.calls second) → first = second
  /-- The broker is asked about the first record. Until its answer is due nothing happens; then the
  list stays, and what the broker agrees to is noted. -/
  answered : ∀ number token entry due delivery now cancelled,
    shared.calls number = .acknowledging token entry (.asking due delivery) →
    shared.noted[entry]? = some ⟨token, delivery⟩ ∧
    shared.reader.pending.head? = some ⟨token, delivery⟩ ∧
    ∃ after, shared.step (.step number now cancelled) = after ∧
      after.reader.pending = shared.reader.pending ∧
      if now < due then after = shared
      else match (Broker.acknowledge delivery.receipt).make shared.broker with
        | (.error error, _) => after.agreed = shared.agreed ∧
          after.calls number = .returned (.acknowledged (.error (.broker error)))
        | (.ok (), _) => after.agreed = shared.agreed ++ [entry] ∧
          after.calls number = .acknowledging token entry .popping
  /-- Whatever else happens before the answer and before the record is off, it stays first. -/
  steady : ∀ holder act, settling (shared.calls holder) = true →
    (∀ now cancelled, act ≠ .step holder now cancelled) →
    (shared.step act).reader.pending.head? = shared.reader.pending.head?
  /-- What is taken off the list is the record that the broker has agreed to last. -/
  popped : ∀ number token entry now cancelled,
    shared.calls number = .acknowledging token entry .popping →
    shared.agreed.getLast? = some entry ∧
    ∃ delivery after, shared.noted[entry]? = some ⟨token, delivery⟩ ∧
      shared.step (.step number now cancelled) = after ∧
      shared.reader.pending = ⟨token, delivery⟩ :: after.reader.pending ∧
      after.popped = shared.popped ++ [entry] ∧
      after.calls number = .returned (.acknowledged (.ok ()))
  once : shared.agreed.Nodup
  /-- What has been taken off by an acknowledgement was agreed to, in the same order; at most one
  agreement waits for its record to be taken off. -/
  owed : shared.popped <+: shared.agreed ∧ shared.agreed.length ≤ shared.popped.length + 1
  queued : shared.reader.pending = shared.noted.drop shared.gone
  left : (shared.popped ++ shared.forgotten).Perm (List.range shared.gone)
  apart : ∀ entry ∈ shared.agreed, entry ∉ shared.forgotten

variable {shared : Shared β ρ}

theorem first_noted (orderly : Orderly shared) {head : Pending ρ}
    (first : shared.reader.pending.head? = some head) : shared.noted[shared.gone]? = some head := by
  rw [← List.head?_drop, ← orderly.queued, first]

theorem agreed_cases (orderly : Orderly shared) :
    shared.agreed = shared.popped ∨ shared.agreed = shared.popped ++ [shared.gone] := by
  by_cases passing : ∃ number token entry,
      shared.calls number = .acknowledging token entry .popping
  · obtain ⟨number, token, entry, found⟩ := passing
    exact .inr (orderly.popping number token entry found).2.1
  · refine .inl (orderly.settled fun number token entry found => ?_)
    exact passing ⟨number, token, entry, found⟩

theorem entries_distinct (orderly : Orderly shared) :
    (shared.popped ++ [shared.gone] ++ shared.forgotten).Nodup :=
  orderly.next_left.nodup_iff.mpr List.nodup_range

theorem agreed_sublist (orderly : Orderly shared) :
    shared.agreed.Sublist (shared.popped ++ [shared.gone]) := by
  rcases agreed_cases orderly with agreed | agreed
  · exact agreed ▸ List.sublist_append_left _ _
  · exact agreed ▸ List.Sublist.refl _

theorem settling_first (orderly : Orderly shared) {holder : Nat}
    (settles : settling (shared.calls holder) = true) :
    holdsGate (shared.calls holder) = true ∧ ∃ head, shared.reader.pending.head? = some head := by
  cases found : shared.calls holder with
  | idle | reading | stopping | returned =>
    rw [found] at settles
    cases settles
  | acknowledging token entry stage =>
    rw [found] at settles
    cases stage with
    | entering | queueing | comparing => cases settles
    | asking due delivery =>
      exact ⟨rfl, _, (orderly.asking holder token entry due delivery found).2⟩
    | popping =>
      obtain ⟨-, -, delivery, head⟩ := orderly.popping holder token entry found
      exact ⟨rfl, _, head⟩

theorem first_steady [Broker β ρ] (orderly : Orderly shared) {holder : Nat} {act : Act β ρ}
    (settles : settling (shared.calls holder) = true)
    (other : ∀ now cancelled, act ≠ .step holder now cancelled) :
    (shared.step act).reader.pending.head? = shared.reader.pending.head? := by
  obtain ⟨holds, head, first⟩ := settling_first orderly settles
  generalize taken : shared.step act = after
  cases taken ▸ step_cases shared act with
  | still | channel | broker => rfl
  | entered number task free enters => cases enters <;> rfl
  | read number now cancelled under reads =>
    cases reads with
    | queued | waited | joined | reached | gaveUp | took | dropped => rfl
    | handedOut => rw [List.head?_append, first, Option.some_or]
  | acknowledged number now cancelled under acknowledges =>
    cases acknowledges with
    | queued | waited | joined | reached | rejected | asked | refused | agreed => rfl
    | popped | poppedNothing =>
      have also : holdsGate (shared.calls number) = true := by rw [under]; rfl
      have same := orderly.guarded.alone also holds
      exact absurd (same ▸ rfl) (other now cancelled)
  | stopped number now cancelled under stops =>
    cases stops with
    | queued | gated | marked | unsubscribed | failed | closed | closedUntracked | untracked
    | deleted | disconnected => rfl
    | drained tracks ahead =>
      have same := Option.some.inj ((orderly.guarded.held holder holds).symm.trans ahead)
      rw [same, under] at holds
      cases holds

theorem atomic [Broker β ρ] (orderly : Orderly shared) : Atomic shared := by
  have distinct := entries_distinct orderly
  refine ⟨?_, ?_, fun _ _ => first_steady orderly, ?_, ?_, ?_, orderly.queued, orderly.left, ?_⟩
  · rintro first second ⟨_, _, _, _, asked⟩ ⟨_, _, _, _, also⟩
    exact orderly.guarded.alone (by rw [asked]; rfl) (by rw [also]; rfl)
  · intro number token entry due delivery now cancelled under
    obtain ⟨rfl, head⟩ := orderly.asking number token entry due delivery under
    refine ⟨first_noted orderly head, head, _, rfl, ?_⟩
    have stepped := acknowledge_cases under now
    simp only [Shared.step, under]
    generalize shared.acknowledge number token shared.gone now (.asking due delivery) = after
      at stepped ⊢
    cases stepped with
    | waited _ _ early => exact ⟨rfl, by rw [if_pos early]⟩
    | refused _ _ error broker late answered =>
      rw [if_neg late, answered]
      exact ⟨rfl, rfl, Shared.put_same number _ shared⟩
    | agreed _ _ broker late answered =>
      rw [if_neg late, answered]
      exact ⟨rfl, rfl, Shared.put_same number _ shared⟩
  · intro number token entry now cancelled under
    obtain ⟨rfl, agreed, delivery, head⟩ := orderly.popping number token entry under
    refine ⟨by rw [agreed, List.getLast?_concat], delivery, _, first_noted orderly head, rfl, ?_⟩
    have stepped := acknowledge_cases under now
    simp only [Shared.step, under]
    generalize shared.acknowledge number token shared.gone now .popping = after at stepped ⊢
    cases stepped with
    | popped first rest pending =>
      rw [pending, List.head?_cons, Option.some.injEq] at head
      rw [pending, head]
      exact ⟨rfl, rfl, Shared.put_same number _ shared⟩
    | poppedNothing pending =>
      rw [pending] at head
      cases head
  · exact (List.nodup_append.mp distinct).1.sublist (agreed_sublist orderly)
  · rcases agreed_cases orderly with agreed | agreed
    · rw [agreed]
      exact ⟨List.prefix_refl _, Nat.le_succ _⟩
    · rw [agreed, List.length_append]
      exact ⟨List.prefix_append _ _, Nat.le_refl _⟩
  · intro entry agreed forgotten
    have early := (agreed_sublist orderly).subset agreed
    exact (List.nodup_append.mp distinct).2.2 entry early entry forgotten rfl

/-- Whatever number of calls share a reader, and whatever the order of their steps, acknowledgements
are atomic. -/
theorem acknowledgements_atomic [Broker β ρ] (port : Nat) (consumer : Consumer)
    (params : SourceParams) (broker : β) (acts : List (Act β ρ)) :
    Atomic ((Shared.start (Reader.fresh port consumer params) broker).run acts) := by
  have opened := Orderly.fresh (ρ := ρ) port consumer params broker
  exact atomic (opened.run acts)

end StreamBridge.Proofs.AtomicAcknowledgements
