import StreamBridge.Proofs.ForwardedMessages

/-! A forwarder and a reader that both go on hand out everything. Each of their steps that does not
have to wait leaves less to do, and the two never wait for each other at once. -/

namespace StreamBridge.Proofs.ForwardingProgress
open ForwardedMessages

variable {ρ : Type}

section progress
variable {pipe : Pipe ρ}

/-- How many steps a call is away from its return, once there is a message for it. -/
def distance : ReadStage ρ → Nat
  | .holding _ => 4
  | .entering => 3
  | .queueing => 2
  | .listening => 1

/-- How much there is to do. An arrival weighs more the further it is from being handed out; a call
that takes a message from the channel is further from its return than one that waits. -/
def rank (pipe : Pipe ρ) : Nat :=
  6 * pipe.forwarder.arrived.length + 5 * pipe.forwarder.held.toList.length +
    4 * pipe.reader.channel.buffer.length + distance pipe.stage

/-- Whether an act is a step of the forwarder or of the reader. -/
def IsMove : Act ρ → Prop
  | .forward | .read => True
  | .arrive _ | .finish => False

/-- Whether the forwarder or the reader has to wait. -/
def Waits (pipe : Pipe ρ) : Act ρ → Prop
  | .forward =>
    pipe.forwarder.held = none ∧ pipe.forwarder.arrived = [] ∨
      pipe.reader.channel.capacity ≤ pipe.reader.channel.buffer.length
  | .read => pipe.stage = .listening ∧ pipe.reader.channel.buffer = []
  | .arrive _ | .finish => False

/-- What a move comes to: it has to wait, or there is less to do after it, or nothing was left to do
but to tell so. -/
inductive Moves (pipe after : Pipe ρ) (act : Act ρ) : Prop where
  | waits (same : after = pipe) (waits : Waits pipe act)
  | nearer (less : rank after < rank pipe)
  | settled (settled : Settled pipe)

theorem move_cases (alone : Alone pipe) {act : Act ρ} (move : IsMove act) :
    Moves pipe (pipe.step act) act := by
  cases act with
  | arrive | finish => exact absurd move id
  | forward =>
    have forwarded := forward_cases alone
    rw [Pipe.step]
    generalize pipe.forward = after at forwarded
    cases forwarded with
    | idle empty none => exact .waits rfl (.inl ⟨empty, none⟩)
    | full _ _ full => exact .waits rfl (.inr full)
    | sent delivery held => exact .nearer (by simp [rank, held]; omega)
    | passed reason rest empty first => exact .nearer (by simp [rank, first])
    | took delivery rest empty first => exact .nearer (by simp [rank, first, empty]; omega)
  | read =>
    have read := read_cases alone
    rw [Pipe.step]
    generalize pipe.read = after at read
    cases read with
    | entered stage => exact .nearer (by simp [rank, stage, distance])
    | queued stage => exact .nearer (by simp [rank, stage, distance])
    | waits stage empty => exact .waits rfl ⟨stage, empty⟩
    | hungUp stage empty done =>
      obtain ⟨_, drained, held⟩ := isDone_iff.mp done
      exact .settled (.of_empty drained (by rw [stage]; rfl) empty held)
    | took stage delivery rest first =>
      exact .nearer (by simp [rank, stage, first, distance]; omega)
    | handed delivery stage => exact .nearer (by simp [rank, stage, distance])

/-- Where both ends have to wait, all is handed out: a full channel has a message for the reader. -/
theorem waits_settled (room : 1 ≤ pipe.reader.channel.capacity) (forward : Waits pipe .forward)
    (read : Waits pipe .read) : Settled pipe := by
  obtain ⟨stage, empty⟩ := read
  obtain ⟨held, drained⟩ | full := forward
  · exact .of_empty drained (by rw [stage]; rfl) empty held
  · rw [empty] at full
    exact absurd (Nat.le_trans room full) (Nat.not_succ_le_zero 0)

theorem settled_move (settled : Settled pipe) (alone : Alone pipe) {act : Act ρ}
    (move : IsMove act) : Settled (pipe.step act) := by
  cases act with
  | arrive | finish => exact absurd move id
  | forward =>
    have forwarded := forward_cases alone
    rw [Pipe.step]
    generalize pipe.forward = after at forwarded
    have held := settled.held
    have drained := settled.drained
    cases forwarded with
    | idle | full => exact settled
    | sent delivery some =>
      rw [some] at held
      cases held
    | passed _ _ _ first | took _ _ _ first =>
      rw [first] at drained
      cases drained
  | read =>
    have read := read_cases alone
    rw [Pipe.step]
    generalize pipe.read = after at read
    have held := settled.held
    have drained := settled.drained
    have buffer := settled.buffer
    cases read with
    | waits => exact settled
    | entered | queued | hungUp => exact .of_empty drained rfl buffer held
    | took _ _ _ first =>
      rw [first] at buffer
      cases buffer
    | handed delivery stage =>
      have empty := settled.emptyHanded
      rw [stage] at empty
      cases empty

variable {opened : Reader ρ} {come handed : List (Delivery ρ)} {stops : Nat}

theorem move_books (books : Books opened come handed stops pipe) {act : Act ρ}
    (move : IsMove act) : ∃ more ends, Books opened come more ends (pipe.step act) := by
  cases act with
  | arrive | finish => exact absurd move id
  | forward => exact ⟨handed, stops, books.forward⟩
  | read => exact books.read

theorem stay_settled (books : Books opened come handed stops pipe) (settled : Settled pipe)
    {acts : List (Act ρ)} (moves : ∀ act ∈ acts, IsMove act) : Settled (pipe.run acts) := by
  induction acts generalizing pipe handed stops with
  | nil => exact settled
  | cons act rest ih =>
    have move := moves act (.head rest)
    obtain ⟨_, _, moved⟩ := move_books books move
    exact ih moved (settled_move settled books.alone move)
      fun other member => moves other (.tail act member)

/-- Moves, one after another, come nearer to the end, unless each of them has to wait. -/
theorem moves_nearer (books : Books opened come handed stops pipe) {acts : List (Act ρ)}
    (moves : ∀ act ∈ acts, IsMove act) :
    (pipe.run acts = pipe ∧ ∀ act ∈ acts, Waits pipe act) ∨
      rank (pipe.run acts) < rank pipe ∨ Settled (pipe.run acts) := by
  induction acts generalizing pipe handed stops with
  | nil => exact .inl ⟨rfl, fun _ member => absurd member List.not_mem_nil⟩
  | cons act rest ih =>
    have move := moves act (.head rest)
    obtain ⟨_, _, moved⟩ := move_books books move
    have others := fun other member => moves other (.tail act member)
    have later := ih moved others
    rw [Pipe.run_cons]
    cases move_cases books.alone move with
    | waits same waits =>
      -- Nothing has changed, so what the other moves come to is said of the same pipe.
      rw [same] at later ⊢
      refine later.imp_left fun still => ⟨still.left, fun other member => ?_⟩
      cases member with
      | head => exact waits
      | tail _ member => exact still.right other member
    | nearer less =>
      obtain ⟨same, _⟩ | nearer | settled := later
      · rw [same]
        exact .inr (.inl less)
      · exact .inr (.inl (Nat.lt_trans nearer less))
      · exact .inr (.inr settled)
    | settled settled =>
      exact .inr (.inr (stay_settled moved (settled_move settled books.alone move) others))

/-- A stretch of steps in which both ends take their turn. -/
structure IsRound (acts : List (Act ρ)) : Prop where
  moves : ∀ act ∈ acts, IsMove act
  forwards : .forward ∈ acts
  reads : .read ∈ acts

theorem round_nearer (books : Books opened come handed stops pipe)
    (room : 1 ≤ opened.channel.capacity) {acts : List (Act ρ)} (round : IsRound acts) :
    rank (pipe.run acts) < rank pipe ∨ Settled (pipe.run acts) := by
  obtain ⟨same, waits⟩ | later := moves_nearer books round.moves
  · rw [same]
    refine .inr (waits_settled ?_ (waits _ round.forwards) (waits _ round.reads))
    rw [books.capacity]
    exact room
  · exact later

theorem brought_moves {acts : List (Act ρ)} (moves : ∀ act ∈ acts, IsMove act) :
    brought acts = [] := by
  induction acts with
  | nil => rfl
  | cons act rest ih =>
    have others := ih fun other member => moves other (.tail act member)
    cases act with
    | arrive | finish => exact absurd (moves _ (.head rest)) id
    | forward | read => exact others

theorem moves_books (books : Books opened come handed stops pipe) {acts : List (Act ρ)}
    (moves : ∀ act ∈ acts, IsMove act) :
    ∃ more ends, Books opened come more ends (pipe.run acts) := by
  obtain ⟨more, ends, kept⟩ := books.run acts
  rw [brought_moves moves, ite_self, List.append_nil] at kept
  exact ⟨more, ends, kept⟩

/-- Each round comes nearer to the end, so that enough of them reach it, whatever the two ends do in
each. -/
theorem rounds_settled (books : Books opened come handed stops pipe)
    (room : 1 ≤ opened.channel.capacity) {rounds : List (List (Act ρ))}
    (each : ∀ round ∈ rounds, IsRound round) (enough : rank pipe ≤ rounds.length) :
    Settled (pipe.run rounds.flatten) := by
  induction rounds generalizing pipe handed stops with
  | nil =>
    have some : 0 < distance pipe.stage := by cases pipe.stage <;> exact Nat.succ_pos _
    rw [rank] at enough
    exact absurd (Nat.le_trans (Nat.le_add_left _ _) enough) (Nat.not_le_of_lt some)
  | cons round rest ih =>
    -- The rank goes down with the number of the rounds that are left, unless all is done before.
    have first := each round (.head rest)
    have others := fun other member => each other (.tail round member)
    obtain ⟨_, _, after⟩ := moves_books books first.moves
    rw [List.flatten_cons, Pipe.run, List.foldl_append]
    obtain less | settled := round_nearer books room first
    · exact ih after others (Nat.le_of_lt_succ (Nat.lt_of_lt_of_le less enough))
    · refine stay_settled after settled fun act member => ?_
      obtain ⟨other, inRest, member⟩ := List.mem_flatten.mp member
      exact (others other inRest).moves act member

/-- Once the subscription has ended and all is handed out, each call tells so in its turn. -/
theorem stops_settled (books : Books opened come handed stops pipe) (settled : Settled pipe)
    (ended : pipe.forwarder.ended = true) {steps : Nat} (far : distance pipe.stage = steps) :
    (pipe.run (List.replicate steps .read)).outcomes = pipe.outcomes ++ [.error .stopped] := by
  induction steps generalizing pipe handed stops with
  | zero => cases stage : pipe.stage <;> rw [stage] at far <;> cases far
  | succ steps ih =>
    -- An empty channel leaves a call no way but to its end, one step nearer each time.
    have read := read_cases books.alone
    have later : Settled (pipe.step .read) := settled_move settled books.alone trivial
    have still := (read_ended books.alone).trans ended
    obtain ⟨_, _, moved⟩ := books.read
    rw [List.replicate_succ, Pipe.run_cons]
    rw [Pipe.step] at later ⊢
    have done : pipe.forwarder.isDone = true :=
      isDone_iff.mpr ⟨ended, settled.drained, settled.held⟩
    generalize pipe.read = after at read later still moved
    cases read with
    | entered stage =>
      rw [stage] at far
      exact ih moved later still (Nat.succ.inj far)
    | queued stage =>
      rw [stage] at far
      exact ih moved later still (Nat.succ.inj far)
    | waits _ _ fed =>
      rw [done] at fed
      cases fed
    | hungUp stage =>
      rw [stage] at far
      cases Nat.succ.inj far
      rfl
    | took _ _ _ first =>
      have buffer := settled.buffer
      rw [first] at buffer
      cases buffer
    | handed _ stage =>
      have empty := settled.emptyHanded
      rw [stage] at empty
      cases empty

end progress

/-- What a pipe has come to when its calls are to return these results, and whether its subscription
has ended. -/
structure Account (capacity : Nat) (expected : List (Except SourceError Record)) (ended : Prop)
    (pipe : Pipe ρ) : Prop where
  /-- The calls have returned what they should, in order, and after the last that there is no
  more. -/
  inOrder : ∃ handed stops, pipe.outcomes = handed ++ List.replicate stops (.error .stopped) ∧
    handed <+: expected ∧ (0 < stops → handed = expected ∧ ended)
  bounded : pipe.reader.channel.buffer.length + pipe.forwarder.held.toList.length ≤ capacity + 1
  /-- If both ends go on, all is returned; and if the subscription has ended, every call after that
  tells so. -/
  returns : ∃ enough, ∀ rounds : List (List (Act ρ)), (∀ round ∈ rounds, IsRound round) →
    enough ≤ rounds.length →
    expected <+: (pipe.run rounds.flatten).outcomes ∧
    (ended → ∃ steps ≤ 3, ((pipe.run rounds.flatten).run (List.replicate steps .read)).outcomes =
      (pipe.run rounds.flatten).outcomes ++ [.error .stopped])

section account
variable {opened : Reader ρ} {come handed : List (Delivery ρ)} {stops : Nat} {pipe : Pipe ρ}

theorem account (books : Books opened come handed stops pipe)
    (room : 1 ≤ opened.channel.capacity) :
    Account opened.channel.capacity (come.map opened.record) (pipe.forwarder.ended = true)
      pipe := by
  refine ⟨⟨handed.map opened.record, stops, books.outcomes, ?_, fun some => ?_⟩, books.room,
    rank pipe, fun rounds each enough => ?_⟩
  · rw [← books.ordered, List.map_append]
    exact List.prefix_append _ _
  · obtain ⟨ended, settled⟩ := books.stopped some
    rw [← books.ordered, settled.handed, List.append_nil]
    exact ⟨rfl, ended⟩
  · have moves : ∀ act ∈ rounds.flatten, IsMove act := fun act member => by
      obtain ⟨round, within, member⟩ := List.mem_flatten.mp member
      exact (each round within).moves act member
    have settled := rounds_settled books room each enough
    obtain ⟨more, ends, after⟩ := moves_books books moves
    refine ⟨?_, fun ended => ⟨distance (pipe.run rounds.flatten).stage, ?_, ?_⟩⟩
    · rw [after.outcomes, ← after.ordered, settled.handed, List.append_nil]
      exact List.prefix_append _ _
    · have empty := settled.emptyHanded
      cases stage : (pipe.run rounds.flatten).stage with
      | holding =>
        rw [stage] at empty
        cases empty
      | entering | queueing | listening => simp [distance]
    · exact stops_settled after settled ((books.run_ended _).mpr (.inl ended)) rfl

theorem start_books (port : Nat) (consumer : Consumer) (params : SourceParams)
    (arrivals : List (Arrival ρ)) :
    Books (Reader.fresh port consumer params) (arrivals.filterMap message?) [] 0
      (.start (Forwarder.fresh.receive arrivals) (Reader.fresh port consumer params)) where
  alone := ⟨rfl, rfl, rfl, rfl⟩
  consumer := rfl
  subject := rfl
  capacity := rfl
  bounded := Nat.zero_le _
  ordered := by simp [underWay, Pipe.start, inHand, Reader.fresh, Channel.fresh, Forwarder.fresh,
    Forwarder.receive]
  outcomes := rfl
  stopped := fun some => absurd some (Nat.lt_irrefl 0)

/-- Whatever a subscription brings, and however fast its forwarder and its reader go: each message
is handed out once, in order, and nothing else is. -/
theorem forwards_in_order (port : Nat) (consumer : Consumer) (params : SourceParams)
    (arrivals : List (Arrival ρ)) (acts : List (Act ρ)) :
    Account params.capacity
      ((arrivals.filterMap message? ++ brought acts).map (Reader.fresh port consumer params).record)
      (.finish ∈ acts)
      ((Pipe.start (Forwarder.fresh.receive arrivals)
        (Reader.fresh port consumer params)).run acts) := by
  have begun := start_books port consumer params arrivals
  obtain ⟨handed, stops, books⟩ := begun.run acts
  have kept := account books (Nat.le_max_right _ _)
  have ended := begun.run_ended acts
  have fresh : (Pipe.start (Forwarder.fresh.receive arrivals)
    (Reader.fresh port consumer params)).forwarder.ended = false := rfl
  rw [fresh] at kept ended
  simp only [ended, Bool.false_eq_true, if_false, false_or] at kept
  exact kept

end account
end StreamBridge.Proofs.ForwardingProgress
