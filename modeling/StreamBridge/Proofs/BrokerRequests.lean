import StreamBridge.Broker.Memory

/-! Requests are made one after another until one fails; a broker in memory refuses what it is told
to, and notes the rest. -/

namespace StreamBridge.Proofs.BrokerRequests

section requests
variable {σ ε δ α β : Type}

theorem make_bind (request : Request σ ε α) (next : α → Request σ ε β) (state : σ) :
    (request >>= next).make state =
      match request.make state with
      | (.error error, state) => (.error error, state)
      | (.ok value, state) => (next value).make state := by
  simp only [Request.make, bind, ExceptT.run, ExceptT.bind, ExceptT.mk, StateT.bind]
  rcases request state with ⟨error | value, after⟩ <;> rfl

theorem make_get (state : σ) : (get : Request σ ε σ).make state = (.ok state, state) := rfl

theorem make_liftExcept (result : Except ε α) (state : σ) :
    (liftExcept result : Request σ ε α).make state = (result, state) := by
  cases result <;> rfl

theorem make_modify (change : σ → σ) (state : σ) :
    (modify change : Request σ ε Unit).make state = (.ok (), change state) := rfl

theorem make_mapError (wrap : ε → δ) (request : Request σ ε α) (state : σ) :
    (request.mapError wrap).make state =
      ((request.make state).1.mapError wrap, (request.make state).2) := rfl

theorem bind_ok {request : Request σ ε α} {next : α → Request σ ε β} {before after : σ}
    {result : β} (made : (request >>= next).make before = (.ok result, after)) :
    ∃ value middle, request.make before = (.ok value, middle) ∧
      (next value).make middle = (.ok result, after) := by
  rw [make_bind] at made
  split at made
  next => cases made
  next value middle first => exact ⟨value, middle, first, made⟩

theorem mapError_ok {wrap : ε → δ} {request : Request σ ε α} {before after : σ} {result : α}
    (made : (request.mapError wrap).make before = (.ok result, after)) :
    request.make before = (.ok result, after) := by
  rw [make_mapError] at made
  rcases requested : request.make before with ⟨error | value, middle⟩
  · rw [requested] at made
    cases made
  · rw [requested] at made
    cases made
    rfl

theorem bind_failed {request : Request σ ε α} {next : α → Request σ ε β} {before after : σ}
    {error : ε} (failed : (request >>= next).make before = (.error error, after)) :
    request.make before = (.error error, after) ∨
      ∃ value middle, request.make before = (.ok value, middle) ∧
        (next value).make middle = (.error error, after) := by
  rw [make_bind] at failed
  split at failed
  next first =>
    cases failed
    exact .inl first
  next value middle first => exact .inr ⟨value, middle, first, failed⟩

theorem mapError_failed {wrap : ε → δ} {request : Request σ ε α} {before after : σ} {error : δ}
    (failed : (request.mapError wrap).make before = (.error error, after)) :
    ∃ cause, error = wrap cause ∧ request.make before = (.error cause, after) := by
  rw [make_mapError] at failed
  rcases requested : request.make before with ⟨cause | value, middle⟩
  · rw [requested] at failed
    cases failed
    exact ⟨cause, rfl, rfl⟩
  · rw [requested] at failed
    cases failed

end requests

open MemoryBroker

variable {α : Type}

/-- What is asked after an attempt is asked only where the action is not told to fail. -/
theorem make_attempt (action : BrokerAction) (reason : String)
    (next : Unit → Request MemoryBroker BrokerError α) (broker : MemoryBroker) :
    (attempt action reason >>= next).make broker =
      if broker.fails action then (.error (.failed action reason), broker)
      else (next ()).make broker := by
  have first : (attempt action reason).make broker =
      if broker.fails action then (.error (.failed action reason), broker)
      else (.ok (), broker) := by
    change (if broker.fails action then throw _ else pure () : Request MemoryBroker _ Unit).make
      broker = _
    split <;> rfl
  rw [make_bind, first]
  cases broker.fails action <;> rfl

theorem make_requireOpen (next : Unit → Request MemoryBroker BrokerError α)
    (broker : MemoryBroker) :
    (requireOpen >>= next).make broker =
      if broker.isClosed then (.error .closed, broker) else (next ()).make broker := by
  have first : requireOpen.make broker =
      if broker.isClosed then (.error .closed, broker) else (.ok (), broker) := by
    change (if broker.isClosed then throw _ else pure () : Request MemoryBroker _ Unit).make
      broker = _
    split <;> rfl
  rw [make_bind, first]
  cases broker.isClosed <;> rfl

theorem make_acknowledge (sequence : UInt64) (broker : MemoryBroker) :
    (Broker.acknowledge sequence : Request MemoryBroker BrokerError Unit).make broker =
      if broker.fails .acknowledge then
        (.error (.failed .acknowledge "mock ack failure"), broker)
      else (.ok (), { broker with acked := broker.acked ++ [sequence] }) := by
  change (acknowledge sequence).make broker = _
  rw [acknowledge, make_attempt, make_modify]

theorem make_unsubscribe (port : Nat) (broker : MemoryBroker) :
    (Broker.unsubscribe port : Request MemoryBroker BrokerError Unit).make broker =
      if broker.fails .unsubscribe then
        (.error (.failed .unsubscribe "mock unsubscribe failure"), broker)
      else (.ok (), { broker with live := none, unsubscribed := broker.unsubscribed + 1 }) := by
  change unsubscribe.make broker = _
  rw [unsubscribe, make_attempt, make_modify]

theorem make_deleteConsumer (stream name : String) (broker : MemoryBroker) :
    (Broker.deleteConsumer stream name : Request MemoryBroker BrokerError Unit).make broker =
      if broker.fails .deleteConsumer then
        (.error (.failed .deleteConsumer "mock delete failure"), broker)
      else (.ok (), { broker with deleted := broker.deleted ++ [(stream, name)] }) := by
  change (deleteConsumer stream name).make broker = _
  rw [deleteConsumer, make_attempt, make_modify]

theorem make_publish (subject : String) (payload : Bytes) (options : PublishOptions)
    (broker : MemoryBroker) :
    (Broker.publish subject payload options : Request MemoryBroker BrokerError Unit).make broker =
      if broker.isClosed then (.error .closed, broker)
      else if broker.fails .publish then (.error (.failed .publish "mock publish failure"), broker)
      else
        (.ok (), { broker with
          published := broker.published ++ [⟨subject, payload, options⟩] }) := by
  change (publish subject payload options).make broker = _
  rw [publish, make_requireOpen, make_attempt, make_modify]

theorem make_close (broker : MemoryBroker) :
    (Broker.close : Request MemoryBroker BrokerError Unit).make broker =
      (.ok (), { broker with closings := broker.closings + 1 }) := rfl

/-- Telling an action to fail, or not to, says nothing about the others. -/
theorem setFailing_fails (action other : BrokerAction) (value : Bool) (broker : MemoryBroker) :
    (broker.setFailing action value).fails other =
      if other = action then value else broker.fails other := by
  by_cases same : other = action
  · subst same
    cases value <;> simp [setFailing, fails]
  · cases value <;> simp [setFailing, fails, same]

theorem createConsumer_memory (stream : String) (config : ConsumerConfig)
    (broker : MemoryBroker) :
    (Broker.createConsumer stream config).make broker =
      if broker.isClosed then (.error .closed, broker)
      else if broker.fails .createConsumer then
        (.error (.failed .createConsumer "mock consumer failure"), broker)
      else
        (.ok ⟨stream, config.durableName, config⟩, { broker with
          consumers := broker.consumers ++ [⟨stream, config.durableName, config⟩] }) := by
  change (createConsumer stream config).make broker = _
  rw [createConsumer, make_requireOpen, make_attempt]
  rfl

theorem subscribe_memory (port : Nat) (subject : String) (consumer : Consumer)
    (broker : MemoryBroker) :
    (Broker.subscribe port subject consumer).make broker =
      if broker.isClosed then (.error .closed, broker)
      else (.ok (), { broker with live := some port }) := by
  change (subscribe port).make broker = _
  rw [subscribe, make_requireOpen, make_modify]

/-- A consumer that was made has the durable name and the terms that were asked for. -/
theorem make_createConsumer {stream : String} {config : ConsumerConfig}
    {broker after : MemoryBroker} {consumer : Consumer}
    (made : (Broker.createConsumer stream config).make broker = (.ok consumer, after)) :
    consumer = ⟨stream, config.durableName, config⟩ ∧
      after = { broker with consumers := broker.consumers ++ [consumer] } := by
  rw [createConsumer_memory] at made
  split at made
  · cases made
  · split at made
    · cases made
    · cases made
      exact ⟨rfl, rfl⟩

theorem make_subscribe {port : Nat} {subject : String} {consumer : Consumer}
    {broker after : MemoryBroker}
    (made : (Broker.subscribe port subject consumer).make broker = (.ok (), after)) :
    after = { broker with live := some port } := by
  rw [subscribe_memory] at made
  split at made
  · cases made
  · cases made
    rfl

end StreamBridge.Proofs.BrokerRequests
