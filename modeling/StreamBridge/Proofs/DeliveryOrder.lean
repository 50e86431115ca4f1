import StreamBridge.Proofs.GatedAcknowledgements
import StreamBridge.Proofs.PositionTokens

/-! In which order a shared reader lists what is pending. A read lets go of the channel before it
notes its record, so two reads that have both taken a message may note them the other way round, and
the list is no longer in the order of delivery. Where no two reads hold a message at once, it is. -/

namespace StreamBridge.Proofs.DeliveryOrder
open SharedReader SharedSteps ReaderCalls GatedAcknowledgements

variable {β ρ : Type}

/-- Whether a call has taken a message and not noted it yet. -/
def Holds (shared : Shared β ρ) (number : Nat) (message : Delivery ρ) : Prop :=
  shared.calls number = .reading (.holding message)

/-- Whether no call is between taking a message and noting it. -/
def Quiet (shared : Shared β ρ) : Prop := ∀ number message, ¬ Holds shared number message

/-- Whether at most one call is between taking a message and noting it. -/
def Single (shared : Shared β ρ) : Prop :=
  ∀ first second message other, Holds shared first message → Holds shared second other →
    first = second

/-- Whether a property holds at every point of a run. -/
def Throughout [Broker β ρ] (property : Shared β ρ → Prop) (shared : Shared β ρ) :
    List (Act β ρ) → Prop
  | [] => property shared
  | act :: rest => property shared ∧ Throughout property (shared.step act) rest

/-- How a message is noted by a reader that tracks. -/
def entry (reader : Reader ρ) (message : Delivery ρ) : Pending ρ :=
  match reader.record message with
  | .ok record => ⟨record.position, message⟩
  | .error _ => ⟨.empty, message⟩

/-- What was taken is noted in that order, but for a message that a read still holds. -/
structure InOrder (opened : Reader ρ) (shared : Shared β ρ) : Prop where
  consumer : shared.reader.consumer = opened.consumer
  subject : shared.reader.subject = opened.subject
  quiet : Quiet shared → shared.noted = shared.taken.map (entry opened)
  holding : ∀ number message, Holds shared number message →
    shared.taken.map (entry opened) = shared.noted ++ [entry opened message]

/-- Whether a message says where it stands in its stream. -/
def Readable (message : Delivery ρ) : Prop := ∃ metadata, message.metadata = .ok metadata

theorem empty_handed {shared : Shared β ρ} {number : Nat} {call : Call ρ}
    (under : shared.calls number = call) (empty : ∀ message, call ≠ .reading (.holding message))
    (message : Delivery ρ) : ¬ Holds shared number message :=
  fun holds => empty message (under.symm.trans holds)

section order
variable {opened : Reader ρ} {shared after : Shared β ρ}

theorem InOrder.sameRecord (order : InOrder opened shared) :
    shared.reader.record = opened.record := by
  funext message
  simp only [Reader.record, Reader.position, order.consumer, order.subject]

theorem InOrder.sameTracks (order : InOrder opened shared) :
    shared.reader.tracks = opened.tracks := by
  simp only [Reader.tracks, order.consumer]

theorem entry_delivery (reader : Reader ρ) (message : Delivery ρ) :
    (entry reader message).delivery = message := by
  unfold entry
  split <;> rfl

theorem InOrder.taken_of_holds (order : InOrder opened shared) {number : Nat}
    {message : Delivery ρ} (holds : Holds shared number message) : message ∈ shared.taken := by
  have last : entry opened message ∈ shared.taken.map (entry opened) := by
    rw [order.holding number message holds]
    exact List.mem_append_right _ (List.mem_singleton_self _)
  obtain ⟨other, taken, same⟩ := List.mem_map.mp last
  have delivery := congrArg Pending.delivery same
  rw [entry_delivery, entry_delivery] at delivery
  exact delivery ▸ taken

/-- A call that moves without a message in hand leaves the order as it is. -/
theorem InOrder.aside (order : InOrder opened shared) {number : Nat} {call : Call ρ}
    (calls : after.calls = (shared.put number call).calls)
    (consumer : after.reader.consumer = shared.reader.consumer)
    (subject : after.reader.subject = shared.reader.subject)
    (taken : after.taken = shared.taken) (noted : after.noted = shared.noted)
    (before : ∀ message, ¬ Holds shared number message)
    (empty : ∀ message, call ≠ .reading (.holding message)) : InOrder opened after := by
  have same (other : Nat) (message : Delivery ρ) :
      Holds after other message ↔ Holds shared other message := by
    unfold Holds
    rw [calls]
    by_cases itself : other = number
    · rw [itself, Shared.put_same]
      exact ⟨fun holds => absurd holds (empty message), fun holds => absurd holds (before message)⟩
    · rw [Shared.put_other call shared itself]
  refine ⟨consumer.trans order.consumer, subject.trans order.subject, ?_, ?_⟩
  · intro quiet
    rw [taken, noted]
    exact order.quiet fun other message holds => quiet other message ((same other message).mpr holds)
  · intro other message holds
    rw [taken, noted]
    exact order.holding other message ((same other message).mp holds)

theorem InOrder.took (order : InOrder opened shared) {number : Nat}
    (under : shared.calls number = .reading .listening) {message : Delivery ρ}
    (calls : after.calls = (shared.put number (.reading (.holding message))).calls)
    (consumer : after.reader.consumer = shared.reader.consumer)
    (subject : after.reader.subject = shared.reader.subject)
    (taken : after.taken = shared.taken ++ [message]) (noted : after.noted = shared.noted)
    (single : Single after) : InOrder opened after := by
  have holds : Holds after number message := by
    rw [Holds, calls, Shared.put_same]
  -- Whoever held a message before this step still holds it, and would not be alone.
  have quiet : Quiet shared := by
    intro other earlier held
    have apart : other ≠ number := by
      intro same
      rw [Holds, same, under] at held
      cases held
    have still : Holds after other earlier := by
      rw [Holds, calls, Shared.put_other _ shared apart]
      exact held
    exact apart (single other number earlier message still holds)
  refine ⟨consumer.trans order.consumer, subject.trans order.subject, ?_, ?_⟩
  · intro none
    exact absurd holds (none number message)
  · intro other held also
    have same := single other number held message also holds
    rw [same, Holds, calls, Shared.put_same] at also
    cases also
    rw [taken, noted, List.map_append, order.quiet quiet]
    rfl

theorem InOrder.handedOut (order : InOrder opened shared) {number : Nat} {message : Delivery ρ}
    (holds : Holds shared number message) {call : Call ρ}
    (calls : after.calls = (shared.put number call).calls)
    (consumer : after.reader.consumer = shared.reader.consumer)
    (subject : after.reader.subject = shared.reader.subject)
    (taken : after.taken = shared.taken)
    (noted : after.noted = shared.noted ++ [entry opened message])
    (empty : ∀ other, call ≠ .reading (.holding other)) (single : Single shared) :
    InOrder opened after := by
  refine ⟨consumer.trans order.consumer, subject.trans order.subject, ?_, ?_⟩
  · intro _
    rw [taken, noted, order.holding number message holds]
  · intro other held also
    rw [Holds, calls] at also
    by_cases same : other = number
    · rw [same, Shared.put_same] at also
      exact absurd also (empty held)
    · rw [Shared.put_other call shared same] at also
      exact absurd (single other number held message also holds) same

theorem InOrder.read (order : InOrder opened shared) (tracks : opened.tracks = true)
    (readable : ∀ message ∈ shared.taken, Readable message) {number : Nat} {stage : ReadStage ρ}
    (under : shared.calls number = .reading stage) (reads : Reads shared number stage after)
    (single : Single shared) (later : Single after) : InOrder opened after := by
  have apart (empty : ∀ message, stage ≠ .holding message) :
      ∀ message, ¬ Holds shared number message := by
    refine empty_handed under fun message same => ?_
    cases same
    exact empty message rfl
  cases reads with
  | queued | waited => exact order
  | joined => exact order.aside rfl rfl rfl rfl rfl (apart fun _ => nofun) fun _ => nofun
  | reached => exact order.aside rfl rfl rfl rfl rfl (apart fun _ => nofun) fun _ => nofun
  | gaveUp _ error empty => exact order.aside rfl rfl rfl rfl rfl (apart empty) fun _ => nofun
  | took message channel taken => exact order.took under rfl rfl rfl rfl rfl later
  | dropped message error unreadable =>
    obtain ⟨metadata, known⟩ := readable message (order.taken_of_holds under)
    rw [Reader.record, known] at unreadable
    cases unreadable
  | handedOut message record recorded =>
    refine order.handedOut under rfl rfl rfl rfl ?_ (fun _ => nofun) single
    rw [order.sameTracks, if_pos tracks, entry, ← order.sameRecord, recorded]

/-- One step keeps the order, where no two calls hold a message before it or after it. -/
theorem InOrder.step [Broker β ρ] (order : InOrder opened shared) (tracks : opened.tracks = true)
    (readable : ∀ message ∈ shared.taken, Readable message) (act : Act β ρ)
    (single : Single shared) (later : Single (shared.step act)) :
    InOrder opened (shared.step act) := by
  generalize stepped : shared.step act = after at later ⊢
  cases stepped ▸ step_cases shared act with
  | still => exact order
  | entered number task free enters =>
    have apart := empty_handed free fun _ => nofun
    cases enters with
    | ended | reading | acknowledging | stopping =>
      exact order.aside rfl rfl rfl rfl rfl apart fun _ => nofun
  | read number now cancelled under reads =>
    exact order.read tracks readable under reads single later
  | acknowledged number now cancelled under acknowledges =>
    have apart := empty_handed under fun _ => nofun
    cases acknowledges with
    | queued | waited => exact order
    | joined | reached | rejected | asked | refused | agreed | popped | poppedNothing =>
      exact order.aside rfl rfl rfl rfl rfl apart fun _ => nofun
  | stopped number now cancelled under stops =>
    have apart := empty_handed under fun _ => nofun
    cases stops with
    | queued | gated => exact order
    | marked | unsubscribed | failed | closed | closedUntracked | untracked | drained | deleted
    | disconnected => exact order.aside rfl rfl rfl rfl rfl apart fun _ => nofun
  | channel | broker => exact ⟨order.consumer, order.subject, order.quiet, order.holding⟩

theorem taken_step [Broker β ρ] (shared : Shared β ρ) (act : Act β ρ) :
    shared.taken <+: (shared.step act).taken := by
  generalize stepped : shared.step act = after
  cases stepped ▸ step_cases shared act with
  | still | channel | broker => exact List.prefix_refl _
  | entered number task free enters => cases enters <;> exact List.prefix_refl _
  | read number now cancelled under reads =>
    cases reads with
    | queued | waited | joined | reached | gaveUp | dropped | handedOut => exact List.prefix_refl _
    | took => exact List.prefix_append _ _
  | acknowledged number now cancelled under acknowledges =>
    cases acknowledges <;> exact List.prefix_refl _
  | stopped number now cancelled under stops => cases stops <;> exact List.prefix_refl _

theorem taken_run [Broker β ρ] (shared : Shared β ρ) (acts : List (Act β ρ)) :
    shared.taken <+: (shared.run acts).taken := by
  induction acts generalizing shared with
  | nil => exact List.prefix_refl _
  | cons act rest ih => exact (taken_step shared act).trans (ih (shared.step act))

theorem Throughout.here [Broker β ρ] {property : Shared β ρ → Prop} {acts : List (Act β ρ)}
    (throughout : Throughout property shared acts) : property shared := by
  cases acts with
  | nil => exact throughout
  | cons => exact throughout.1

theorem InOrder.run [Broker β ρ] (order : InOrder opened shared) (tracks : opened.tracks = true)
    (acts : List (Act β ρ)) (single : Throughout Single shared acts)
    (readable : ∀ message ∈ (shared.run acts).taken, Readable message) :
    InOrder opened (shared.run acts) := by
  induction acts generalizing shared with
  | nil => exact order
  | cons act rest ih =>
    have earlier : ∀ message ∈ shared.taken, Readable message := fun message taken =>
      readable message ((taken_run shared (act :: rest)).subset taken)
    exact ih (order.step tracks earlier act single.1 single.2.here) single.2 readable

end order

theorem Readable.entry {message : Delivery ρ} (readable : Readable message) (reader : Reader ρ) :
    ∃ record, reader.record message = .ok record ∧
      entry reader message = ⟨record.position, message⟩ := by
  obtain ⟨metadata, known⟩ := readable
  refine ⟨_, by rw [Reader.record, known], ?_⟩
  rw [DeliveryOrder.entry, Reader.record, known]

/-- The oldest pending record is acknowledged with its token, if the broker agrees. -/
theorem acknowledge_first [Broker β ρ] {reader : Reader ρ} {broker after : β}
    {head : Pending ρ} (running : reader.stopped = false) (tracks : reader.tracks = true)
    (line : reader.gateLine = []) (first : reader.pending.head? = some head)
    (agrees : (Broker.acknowledge head.delivery.receipt).make broker = (.ok (), after)) :
    reader.acknowledge head.token broker =
      ((some (.ok ()), { reader with pending := reader.pending.tail }), after) := by
  rw [acknowledge_alone head.token reader broker line]
  simp only [running, tracks, Bool.false_eq_true, Bool.true_eq_false, if_false, settleHead]
  cases pending : reader.pending with
  | nil =>
    rw [pending] at first
    cases first
  | cons oldest rest =>
    rw [pending, List.head?_cons, Option.some.injEq] at first
    subst first
    simp only [if_true, settle, agrees, pending, running]

/-- Where no two reads hold a message at the same point and every message can be read: whenever no
read holds one, what is pending is what was taken from the channel, in that order, less as many as
have left. So the message whose turn it is can be acknowledged with the token of its own record. -/
theorem delivery_ordered [Broker β ρ] (port : Nat) (consumer : Consumer) (params : SourceParams)
    (broker : β) (tracked : consumer.config.ackPolicy ≠ .none) (acts : List (Act β ρ))
    (single : Throughout Single (Shared.start (Reader.fresh port consumer params) broker) acts) :
    let opened : Reader ρ := Reader.fresh port consumer params
    let shared := (Shared.start opened broker).run acts
    (∀ message ∈ shared.taken, Readable message) → Quiet shared →
    shared.reader.pending = (shared.taken.drop shared.gone).map (entry opened) ∧
    ∀ message after, shared.taken[shared.gone]? = some message →
      shared.reader.stopped = false → shared.reader.gateLine = [] →
      (Broker.acknowledge message.receipt).make shared.broker = (.ok (), after) →
      ∃ record, opened.record message = .ok record ∧
        shared.reader.acknowledge record.position shared.broker =
          ((some (.ok ()), { shared.reader with pending := shared.reader.pending.tail }),
            after) := by
  intro opened shared readable quiet
  have tracks : opened.tracks = true := bne_iff_ne.mpr tracked
  have began : InOrder opened (Shared.start opened broker) :=
    ⟨rfl, rfl, fun _ => rfl, fun _ _ => nofun⟩
  have order : InOrder opened shared := began.run tracks acts single readable
  have orderly : Orderly shared := (Orderly.fresh port consumer params broker).run acts
  have pending : shared.reader.pending = (shared.taken.drop shared.gone).map (entry opened) := by
    rw [orderly.queued, order.quiet quiet, List.map_drop]
  refine ⟨pending, ?_⟩
  intro message after turn running line agrees
  obtain ⟨record, recorded, noted⟩ :=
    (readable message (List.mem_of_getElem? turn)).entry opened
  refine ⟨record, recorded, ?_⟩
  have first : shared.reader.pending.head? = some ⟨record.position, message⟩ := by
    rw [pending, List.head?_map, List.head?_drop, turn, Option.map_some, noted]
  exact acknowledge_first running (order.sameTracks.trans tracks) line first agrees

theorem single_of_others {shared : Shared β ρ} {number : Nat}
    (others : ∀ other, other ≠ number → ∀ message, ¬ Holds shared other message) :
    Single shared := by
  intro first second message other holds also
  by_cases same : first = number
  · by_cases too : second = number
    · rw [same, too]
    · exact absurd also (others second too other)
  · exact absurd holds (others first same message)

/-- No two reads hold a message while only one call moves. -/
theorem throughout_single [Broker β ρ] {shared : Shared β ρ} (number : Nat)
    (others : ∀ other, other ≠ number → ∀ message, ¬ Holds shared other message)
    {acts : List (Act β ρ)}
    (own : ∀ act ∈ acts, ∀ other, act.number? = some other → other = number) :
    Throughout Single shared acts := by
  induction acts generalizing shared with
  | nil => exact single_of_others others
  | cons act rest ih =>
    refine ⟨single_of_others others, ih ?_ fun later member => own later (.tail _ member)⟩
    intro other apart message
    rw [Holds, step_apart shared fun about => apart (own act (.head _) other about)]
    exact others other apart message

theorem throughout_append [Broker β ρ] {property : Shared β ρ → Prop} {shared : Shared β ρ}
    {first second : List (Act β ρ)} :
    Throughout property shared (first ++ second) ↔
      Throughout property shared first ∧ Throughout property (shared.run first) second := by
  induction first generalizing shared with
  | nil => exact ⟨fun throughout => ⟨throughout.here, throughout⟩, And.right⟩
  | cons act rest ih => simp only [List.cons_append, Throughout, Shared.run_cons, ih, and_assoc]

def eighth : Delivery UInt64 := MemoryBroker.message 8 .epoch [0x62]

theorem two_quiet {acts : List (Act MemoryBroker UInt64)} {first second : Result}
    (ended : (untouched.run acts).calls 1 = .returned first)
    (also : (untouched.run acts).calls 2 = .returned second)
    (own : ∀ act ∈ acts, ∀ number, act.number? = some number → number = 1 ∨ number = 2) :
    Quiet (untouched.run acts) := by
  intro number
  by_cases one : number = 1
  · exact one ▸ empty_handed ended fun _ => nofun
  · by_cases two : number = 2
    · exact two ▸ empty_handed also fun _ => nofun
    · refine empty_handed (run_apart untouched fun act member about => ?_) fun _ => nofun
      exact (own act member number about).elim one two

def inTurn : List (Act MemoryBroker UInt64) :=
  [.deliver 0 seventh, .call 1 .read, .step 1 ⟨0⟩ false, .step 1 ⟨0⟩ false, .step 1 ⟨0⟩ false,
    .step 1 ⟨0⟩ false] ++
  [.deliver 0 eighth, .call 2 .read, .step 2 ⟨0⟩ false, .step 2 ⟨0⟩ false, .step 2 ⟨0⟩ false,
    .step 2 ⟨0⟩ false]

theorem delivery_ordered_in_turn :
    tracking.config.ackPolicy ≠ .none ∧ Throughout Single untouched inTurn ∧
    (∀ message ∈ (untouched.run inTurn).taken, Readable message) ∧
    Quiet (untouched.run inTurn) ∧
    (untouched.run inTurn).reader.pending = [seventh, eighth].map (entry untouched.reader) := by
  have tracked : tracking.config.ackPolicy ≠ .none := by decide
  have single : Throughout Single untouched inTurn := by
    rw [inTurn, throughout_append]
    refine ⟨throughout_single 1 ?_ ?_, throughout_single 2 ?_ ?_⟩
    · exact fun other _ => empty_handed rfl fun _ => nofun
    · simp [Act.number?]
    · intro other apart
      by_cases first : other = 1
      · subst first
        exact empty_handed rfl fun _ => nofun
      · refine empty_handed (run_apart untouched ?_) fun _ => nofun
        simp [Act.number?, Ne.symm first]
    · simp [Act.number?]
  have readable : ∀ message ∈ (untouched.run inTurn).taken, Readable message := by
    intro message taken
    have either : message = seventh ∨ message = eighth := by
      simpa using (show message ∈ [seventh, eighth] from taken)
    rcases either with rfl | rfl <;> exact ⟨_, rfl⟩
  have quiet : Quiet (untouched.run inTurn) := two_quiet rfl rfl (by simp [inTurn, Act.number?])
  have ordered := delivery_ordered 1 tracking oneRoom MemoryBroker.fresh tracked inTurn single
    readable quiet
  have left : (untouched.run inTurn).taken.drop (untouched.run inTurn).gone = [seventh, eighth] :=
    rfl
  exact ⟨tracked, single, readable, quiet,
    ordered.1.trans (congrArg (List.map (entry untouched.reader)) left)⟩

/-- Two reads that both have a message before either has noted it; the later one is first to note
its own. -/
def race : List (Act MemoryBroker UInt64) :=
  [.deliver 0 seventh, .call 1 .read, .step 1 ⟨0⟩ false, .step 1 ⟨0⟩ false, .step 1 ⟨0⟩ false,
    .deliver 0 eighth, .call 2 .read, .step 2 ⟨0⟩ false, .step 2 ⟨0⟩ false, .step 2 ⟨0⟩ false,
    .step 2 ⟨0⟩ false, .step 1 ⟨0⟩ false]

/-- After the race no read holds a message, but the records are listed the wrong way round, and the
message that was delivered first is refused. -/
theorem readers_swap :
    Quiet (untouched.run race) ∧ (untouched.run race).taken = [seventh, eighth] ∧
    (untouched.run race).reader.pending.map (·.delivery) = [eighth, seventh] ∧
    ∃ first second, untouched.reader.record seventh = .ok first ∧
      untouched.reader.record eighth = .ok second ∧
      ((untouched.run race).reader.acknowledge first.position (untouched.run race).broker).1.1 =
        some (.error (.outOfOrder first.position second.position)) := by
  refine ⟨two_quiet rfl rfl (by simp [race, Act.number?]), rfl, rfl, _, _, rfl, rfl, ?_⟩
  have other : (untouched.reader.position ⟨8, .epoch⟩).encode ≠
      (untouched.reader.position ⟨7, .epoch⟩).encode := by
    intro same
    have next := congrArg Position.next (PositionTokens.encode_injective same)
    exact absurd next (by decide)
  have listed : (untouched.run race).reader.pending =
      [⟨(untouched.reader.position ⟨8, .epoch⟩).encode, eighth⟩,
        ⟨(untouched.reader.position ⟨7, .epoch⟩).encode, seventh⟩] := rfl
  have running : (untouched.run race).reader.stopped = false := rfl
  have tracks : (untouched.run race).reader.tracks = true := rfl
  rw [acknowledge_alone _ _ _ rfl]
  simp only [running, tracks, settleHead, listed, if_neg other, Bool.false_eq_true,
    Bool.true_eq_false, if_false]

end StreamBridge.Proofs.DeliveryOrder
