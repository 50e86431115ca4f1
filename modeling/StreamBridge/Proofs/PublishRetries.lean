import StreamBridge.Nats.Client
import StreamBridge.Proofs.KeptViews
import StreamBridge.Settings.Basic

/-! Publishing with retries, from the options to the last attempt. The attempts of a call are a
history beside the states that they pass through: another one follows only where nobody answered
the last, and only after the wait. What an attempt meets is arbitrary, so any outcomes may come in
any order. -/

namespace StreamBridge.Proofs.PublishRetries
open BrokerRequests KeptViews

/-- The wait before another attempt: the first among the options. -/
def waitAmong : List PublishOption → Duration
  | [] => .ofMilliseconds 250
  | .retryWait wait :: _ => wait
  | .retryAttempts _ :: rest => waitAmong rest

/-- How many attempts may follow the first: the first count among the options. -/
def countAmong : List PublishOption → Nat
  | [] => 2
  | .retryWait _ :: rest => countAmong rest
  | .retryAttempts count :: _ => count

theorem retryWait_first (options : List PublishOption) :
    (PublishOptions.mk options).retryWait?.getD Retry.defaultWait = waitAmong options := by
  induction options with
  | nil => rfl
  | cons option rest ih =>
    cases option with
    | retryWait wait => rfl
    | retryAttempts count => exact ih

theorem retryAttempts_first (options : List PublishOption) :
    (PublishOptions.mk options).retryAttempts?.getD Retry.defaultAttempts = countAmong options := by
  induction options with
  | nil => rfl
  | cons option rest ih =>
    cases option with
    | retryWait wait => exact ih
    | retryAttempts count => rfl

theorem waitAmong_ofSettings (wait : Duration) (count : Nat) :
    waitAmong (PublishOptions.ofSettings wait count).options =
      if wait.isZero then .ofMilliseconds 250 else wait := by
  unfold PublishOptions.ofSettings
  split
  · split <;> rfl
  · rfl

theorem countAmong_ofSettings (wait : Duration) (count : Nat) :
    countAmong (PublishOptions.ofSettings wait count).options =
      if count = 0 then 2 else count := by
  unfold PublishOptions.ofSettings
  split <;> split <;> rfl

theorem waitAmong_settings (settings : DestinationSettings) :
    waitAmong settings.params.options.options =
      .ofMilliseconds (if settings.retryWait = 0 then 250 else settings.retryWait) := by
  have zero : (Duration.ofMilliseconds settings.retryWait).isZero = true ↔
      settings.retryWait = 0 := by
    simp only [Duration.isZero, Duration.ofMilliseconds, beq_iff_eq]
    omega
  rw [DestinationParams.options, waitAmong_ofSettings, DestinationSettings.params]
  by_cases none : settings.retryWait = 0
  · rw [if_pos (zero.mpr none), if_pos none]
  · rw [if_neg (mt zero.mp none), if_neg none]

/-- Whether nobody answered an attempt. -/
def Unanswered (outcome : Except PublishFailure Unit) : Prop :=
  ∃ detail, outcome = .error ⟨.noStream, detail⟩

theorem retryable_unanswered (failure : PublishFailure) :
    failure.isRetryable = true ↔ Unanswered (.error failure) := by
  obtain ⟨fault, detail⟩ := failure
  simp [PublishFailure.isRetryable, Unanswered]

section attempts
variable {σ : Type}

/-- Attempts from one state to another, with what each has come to. The first is made at once. One
that nobody answered may be followed by another, after a pause; any other is the last. -/
inductive Tries (pause : σ → σ) (attempt : Request σ PublishFailure Unit) :
    σ → List (Except PublishFailure Unit) → σ → Prop where
  | last {state after : σ} {outcome : Except PublishFailure Unit}
      (made : attempt.make state = (outcome, after)) : Tries pause attempt state [outcome] after
  | again {state middle after : σ} {outcome : Except PublishFailure Unit}
      {later : List (Except PublishFailure Unit)} (made : attempt.make state = (outcome, middle))
      (unanswered : Unanswered outcome) (rest : Tries pause attempt (pause middle) later after) :
      Tries pause attempt state (outcome :: later) after

theorem Tries.some {pause : σ → σ} {attempt : Request σ PublishFailure Unit} {state after : σ}
    {outcomes : List (Except PublishFailure Unit)}
    (tries : Tries pause attempt state outcomes after) : outcomes ≠ [] := by
  cases tries <;> exact List.cons_ne_nil _ _

/-- How a call reports what its last attempt has come to. -/
inductive Reports : Except PublishFailure Unit → Except BrokerError Unit → Prop where
  | stored : Reports (.ok ()) (.ok ())
  | failed (failure : PublishFailure) (text : failure.message ≠ "retries exhausted") :
      Reports (.error failure) (.error (.failed .publish failure.message))

/-- The books of a call: its attempts from one state to another, and its result. -/
structure Account (pause : σ → σ) (attempt : Request σ PublishFailure Unit) (retries : Nat)
    (state : σ) (outcomes : List (Except PublishFailure Unit)) (result : Except BrokerError Unit)
    (after : σ) : Prop where
  tries : Tries pause attempt state outcomes after
  few : outcomes.length ≤ retries + 1
  reports : ∃ last, outcomes.getLast? = some last ∧ Reports last result ∧
    (Unanswered last → outcomes.length = retries + 1)

theorem message_worded (failure : PublishFailure) : failure.message ≠ "retries exhausted" := by
  intro same
  have first := congrArg (fun text => text.toList.head?) same
  obtain ⟨fault, detail⟩ := failure
  cases fault <;> cases detail <;>
    simp [PublishFailure.message, PublishFault.label, String.toList_append] at first

theorem reports (outcome : Except PublishFailure Unit) :
    Reports outcome (outcome.mapError PublishFailure.toBrokerError) := by
  cases outcome with
  | ok => exact .stored
  | error failure => exact .failed failure (message_worded failure)

theorem Account.again {pause : σ → σ} {attempt : Request σ PublishFailure Unit} {retries : Nat}
    {state middle after : σ} {outcome : Except PublishFailure Unit}
    {later : List (Except PublishFailure Unit)} {result : Except BrokerError Unit}
    (made : attempt.make state = (outcome, middle)) (unanswered : Unanswered outcome)
    (rest : Account pause attempt retries (pause middle) later result after) :
    Account pause attempt (retries + 1) state (outcome :: later) result after := by
  obtain ⟨last, found, reported, full⟩ := rest.reports
  refine ⟨.again made unanswered rest.tries, Nat.succ_le_succ rest.few, last, ?_, reported, ?_⟩
  · rw [List.getLast?_cons, found]
    rfl
  · intro silent
    rw [List.length_cons, full silent]

theorem publish_last {pause : σ → σ} {attempt : Request σ PublishFailure Unit} {retries : Nat}
    {state after : σ} {outcome : Except PublishFailure Unit}
    (made : attempt.make state = (outcome, after))
    (final : Unanswered outcome → retries = 0) :
    (Retry.publish pause attempt retries).make state =
      (outcome.mapError PublishFailure.toBrokerError, after) := by
  cases retries with
  | zero => rw [Retry.publish, make_mapError, made]
  | succ retries =>
    rw [Request.make, ExceptT.run, Retry.publish]
    dsimp only
    rw [made]
    cases outcome with
    | ok => rfl
    | error failure =>
      have answered : ¬ failure.isRetryable = true := fun retryable =>
        absurd (final ((retryable_unanswered failure).mp retryable)) (Nat.succ_ne_zero retries)
      simp only [if_neg answered]
      rfl

theorem publish_again {pause : σ → σ} {attempt : Request σ PublishFailure Unit} (retries : Nat)
    {state middle : σ} {outcome : Except PublishFailure Unit}
    (made : attempt.make state = (outcome, middle)) (unanswered : Unanswered outcome) :
    (Retry.publish pause attempt (retries + 1)).make state =
      (Retry.publish pause attempt retries).make (pause middle) := by
  obtain ⟨detail, rfl⟩ := unanswered
  rw [Request.make, ExceptT.run, Retry.publish]
  dsimp only
  rw [made]
  rfl

theorem account_last {pause : σ → σ} {attempt : Request σ PublishFailure Unit} {retries : Nat}
    {state after : σ} {outcome : Except PublishFailure Unit}
    (made : attempt.make state = (outcome, after))
    (final : Unanswered outcome → retries = 0) :
    Account pause attempt retries state [outcome]
      ((Retry.publish pause attempt retries).make state).1
      ((Retry.publish pause attempt retries).make state).2 := by
  rw [publish_last made final]
  exact ⟨.last made, Nat.le_add_left 1 retries, outcome, rfl, reports outcome,
    fun unanswered => by rw [final unanswered, List.length_singleton]⟩

theorem publish_account (pause : σ → σ) (attempt : Request σ PublishFailure Unit) (retries : Nat)
    (state : σ) :
    ∃ outcomes, Account pause attempt retries state outcomes
      ((Retry.publish pause attempt retries).make state).1
      ((Retry.publish pause attempt retries).make state).2 := by
  induction retries generalizing state with
  | zero => exact ⟨_, account_last rfl fun _ => rfl⟩
  | succ retries ih =>
    rcases made : attempt.make state with ⟨outcome, middle⟩
    by_cases unanswered : Unanswered outcome
    · obtain ⟨later, rest⟩ := ih (pause middle)
      rw [publish_again retries made unanswered]
      exact ⟨outcome :: later, rest.again made unanswered⟩
    · exact ⟨[outcome], account_last made fun answered => absurd answered unanswered⟩

end attempts

section server
open Nats Nats.Client

/-- What the server answers to each attempt: what its script says, the last line over and over;
without a script it stores the message. -/
def answer (script : List Outcome) (index : Nat) : Outcome :=
  (script[min index (script.length - 1)]?).getD .proper

/-- What a client makes of an answer. -/
def heard (outcome : Outcome) : Except PublishFailure Unit :=
  outcome.published.mapError RequestFault.publishFailure

theorem answer_next (script : List Outcome) (index : Nat) :
    answer (Script.next script).2 index = answer script (index + 1) := by
  match script with
  | [] => rfl
  | [last] => simp [Script.next, answer]
  | first :: second :: rest =>
    simp only [Script.next, answer, List.length_cons, Nat.add_sub_cancel]
    rw [show min (index + 1) (rest.length + 1) = min index rest.length + 1 by omega,
      List.getElem?_cons_succ]

theorem answer_first (script : List Outcome) :
    (Script.next script).1.getD .proper = answer script 0 := by
  match script with
  | [] | [_] | _ :: _ :: _ => rfl

theorem publishOnce_open {client : Client} (isOpen : client.link.isOpen = true) (subject : String)
    (payload : Bytes) :
    (publishOnce subject payload).make client =
      (heard (answer client.network.server.publishing 0),
        { client with network := { client.network with
          server := (Server.publish subject payload client.network.server).2 } }) := by
  rw [publishOnce, make_mapError, make_bind, make_get]
  simp only [if_pos isOpen, make_bind, make_useServer, make_liftExcept]
  rw [← answer_first]
  rfl

theorem publishOnce_closed {client : Client} (closed : client.link.isOpen = false)
    (subject : String) (payload : Bytes) :
    (publishOnce subject payload).make client =
      (.error ⟨.other, some RequestFault.disconnected⟩, client) := by
  rw [publishOnce, make_mapError, make_bind, make_get]
  simp only [closed, Bool.false_eq_true, if_false]
  rfl

/-- What the attempts of a call leave at the server and on the clock. Each that reaches the server
brings it the same message; on a closed connection there is one that does not. -/
structure Served (subject : String) (payload : Bytes) (wait : Duration) (client : Client)
    (outcomes : List (Except PublishFailure Unit)) (after : Client) : Prop where
  clock : after.network.clock.nanoseconds =
    client.network.clock.nanoseconds + (outcomes.length - 1) * wait.nanoseconds
  sent : client.link.isOpen = true →
    outcomes = (List.range outcomes.length).map
      (fun index => heard (answer client.network.server.publishing index)) ∧
    after.network.server.log = client.network.server.log ++
      List.replicate outcomes.length (.publish subject payload)
  unsent : client.link.isOpen = false →
    outcomes = [.error ⟨.other, some RequestFault.disconnected⟩] ∧ after = client

theorem Served.last {subject : String} {payload : Bytes} (wait : Duration)
    {client after : Client} {outcome : Except PublishFailure Unit}
    (made : (publishOnce subject payload).make client = (outcome, after)) :
    Served subject payload wait client [outcome] after := by
  cases isOpen : client.link.isOpen with
  | true =>
    rw [publishOnce_open isOpen] at made
    cases made
    exact ⟨by simp, fun _ => ⟨rfl, rfl⟩, fun closed => (nomatch isOpen.symm.trans closed)⟩
  | false =>
    rw [publishOnce_closed isOpen] at made
    cases made
    exact ⟨by simp, fun opened => (nomatch isOpen.symm.trans opened), fun _ => ⟨rfl, rfl⟩⟩

theorem Served.again {subject : String} {payload : Bytes} {wait : Duration}
    {client middle after : Client} {outcome : Except PublishFailure Unit}
    {later : List (Except PublishFailure Unit)}
    (made : (publishOnce subject payload).make client = (outcome, middle))
    (unanswered : Unanswered outcome) (some : later ≠ [])
    (rest : Served subject payload wait (pause wait middle) later after) :
    Served subject payload wait client (outcome :: later) after := by
  cases isOpen : client.link.isOpen with
  | true =>
    rw [publishOnce_open isOpen] at made
    cases made
    obtain ⟨outcomes, log⟩ := rest.sent isOpen
    refine ⟨?_, fun _ => ⟨?_, ?_⟩, fun closed => (nomatch isOpen.symm.trans closed)⟩
    · obtain ⟨count, length⟩ := Nat.exists_eq_add_one.mpr (List.length_pos_iff.mpr some)
      rw [rest.clock, List.length_cons, length, Nat.add_sub_cancel, Nat.add_sub_cancel,
        Nat.add_one_mul]
      change client.network.clock.nanoseconds + wait.nanoseconds + _ = _
      omega
    · rw [List.length_cons, List.range_succ_eq_map, List.map_cons, List.map_map]
      refine congrArg (_ :: ·) (outcomes.trans (List.map_congr_left fun index _ => ?_))
      exact congrArg heard (answer_next client.network.server.publishing index)
    · rw [log, List.length_cons, List.replicate_succ]
      exact List.append_assoc _ [_] _
  | false =>
    rw [publishOnce_closed isOpen] at made
    obtain ⟨detail, same⟩ := unanswered
    cases made
    cases same

theorem Tries.served {subject : String} {payload : Bytes} {wait : Duration}
    {client after : Client} {outcomes : List (Except PublishFailure Unit)}
    (tries : Tries (pause wait) (publishOnce subject payload) client outcomes after) :
    Served subject payload wait client outcomes after := by
  induction tries with
  | last made => exact .last wait made
  | again made unanswered rest ih => exact .again made unanswered rest.some ih

end server

/-- Publishing with retries, for every list of options, subject, message and behaviour of what
answers: the first count and the first wait of the list decide, the same message is sent again only
where nobody answered it, and the last attempt decides the result. -/
theorem publishes_until_answered (options : PublishOptions) (subject : String) (payload : Bytes) :
    (∀ (σ : Type) (pause : Duration → σ → σ) (send : String → Bytes → Request σ PublishFailure Unit)
      (state : σ),
      let call := Retry.publish (pause (options.retryWait?.getD Retry.defaultWait))
        (send subject payload) (options.retryAttempts?.getD Retry.defaultAttempts)
      ∃ outcomes, Account (pause (waitAmong options.options)) (send subject payload)
        (countAmong options.options) state outcomes (call.make state).1 (call.make state).2) ∧
    (∀ client : Nats.Client,
      let (result, after) := (Nats.Client.publish subject payload options).make client
      ∃ outcomes,
        Account (Nats.Client.pause (waitAmong options.options))
          (Nats.Client.publishOnce subject payload) (countAmong options.options) client outcomes
          result after ∧
        Served subject payload (waitAmong options.options) client outcomes after) ∧
    ∀ settings : DestinationSettings,
      waitAmong settings.params.options.options =
        .ofMilliseconds (if settings.retryWait = 0 then 250 else settings.retryWait) ∧
      countAmong settings.params.options.options =
        if settings.retryAttempts = 0 then 2 else settings.retryAttempts := by
  obtain ⟨options⟩ := options
  refine ⟨fun σ pause send state => ?_, fun client => ?_, fun settings =>
    ⟨waitAmong_settings settings, countAmong_ofSettings _ _⟩⟩
  · simp only [retryWait_first, retryAttempts_first]
    exact publish_account _ _ _ state
  · obtain ⟨outcomes, account⟩ := publish_account (Nats.Client.pause (waitAmong options))
      (Nats.Client.publishOnce subject payload) (countAmong options) client
    simp only [Nats.Client.publish, retryWait_first, retryAttempts_first]
    exact ⟨outcomes, account, account.tries.served⟩

end StreamBridge.Proofs.PublishRetries
