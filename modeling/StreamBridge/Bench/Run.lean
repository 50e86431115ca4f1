import StreamBridge.Bench.Task

/-! Taking the steps of an exercise. -/

namespace StreamBridge.Bench

/-- The first state of a call; none where it names something that is not there. -/
def prepare (order : Order) (bench : Bench) : Option (Call × Bench) :=
  let request {α : Type} (request : Request MemoryBroker BrokerError α) (outcome : α → Outcome) :
      Option (Call × Bench) :=
    let (result, broker) := request.make bench.broker
    let outcome := match result with
      | .ok value => outcome value
      | .error error => .brokerError error
    some (.settled outcome, { bench with broker := broker })
  match order with
  | .deliver sequence timestamp payload =>
    some (.sending (MemoryBroker.message sequence timestamp payload), bench)
  | .read reader signal => do
    let (port, _) ← bench.seat? reader
    if signal.any fun name => (bench.signals.lookup name).isNone then none
    else some (.reading port signal .entering, bench)
  | .acknowledge reader token => do
    let (port, _) ← bench.seat? reader
    let token ← match token with
      | .given token => some token
      | .handedOut other index => do
        let (_, seat) ← bench.seat? other
        seat.tokens[index]?
    return (.acknowledging port token .entering, bench)
  | .stop reader => do
    let (port, _) ← bench.seat? reader
    return (.stopping port .entering, bench)
  | .write name record => do
    let writer ← bench.writers.lookup name
    let (result, broker) := (writer.write record).make bench.broker
    return (.settled (.ofWriter result), { bench with broker := broker })
  | .close name => do
    let writer ← bench.writers.lookup name
    let ((result, writer), broker) := writer.close bench.broker
    return (.settled (.ofWriter result),
      { bench with broker := broker, writers := assign name writer bench.writers })
  | .createConsumer stream config =>
    request (MemoryBroker.createConsumer stream config) .consumer
  | .confirm name index => do
    let listener ← bench.listeners.lookup name
    let delivery ← listener.received[index]?
    return (.confirming (bench.clock + bench.broker.latency) delivery.receipt, bench)
  | .unsubscribe name => do
    let listener ← bench.listeners.lookup name
    if listener.subscribed then
      let (result, broker) := MemoryBroker.unsubscribe.make bench.broker
      let listener := { listener with subscribed := !result.isOk }
      return (.settled (.ofBroker result),
        { bench with broker := broker, listeners := assign name listener bench.listeners })
    else return (.settled .done, bench)
  | .deleteConsumer stream name =>
    request (MemoryBroker.deleteConsumer stream name) fun _ => .done
  | .publish subject payload options =>
    request (MemoryBroker.publish subject payload options) fun _ => .done
  | .disconnect => request MemoryBroker.close fun _ => .done

/-- The task with a number. -/
def task? (number : Nat) (bench : Bench) : Option Task :=
  bench.tasks.find? (·.number == number)

/-- Starts a call and runs all tasks. Without a name it gives its outcome, or is given up. -/
def start (order : Order) (name : Option String) (bench : Bench) : Outcome × Bench :=
  match bench.prepare order with
  | none => (.unknown, bench)
  | some (call, bench) =>
    let number := bench.started + 1
    let task : Task := ⟨number, name, .running call⟩
    let bench := { bench with started := number, tasks := bench.tasks ++ [task] }.settle
    match bench.task? number, name with
    | none, _ => (.unknown, bench)
    | some task, some name =>
      let ended := match task.state with
        | .ended _ => true
        | .running _ => false
      (.started name ended, bench)
    | some task, none =>
      let outcome := match task.state with
        | .ended outcome => outcome
        | .running _ => .pending
      (outcome, (bench.dismiss task).prune)

/-- Receives a message from a bare subscription, if one is there. -/
def receive (name : String) (bench : Bench) : Outcome × Bench :=
  match bench.listeners.lookup name with
  | none => (.unknown, bench)
  | some listener =>
    match listener.channel.take with
    | some (delivery, channel) =>
      let listener :=
        { listener with channel := channel, received := listener.received ++ [delivery] }
      (.message delivery, { bench with listeners := assign name listener bench.listeners })
    | none =>
      let fed := Broker.feeds bench.broker listener.port
      (if listener.channel.closed || (!fed && listener.channel.line.isEmpty) then .disconnected
        else .empty, bench)

/-- The task of a name. -/
def named? (name : String) (bench : Bench) : Option Task :=
  bench.tasks.find? (·.name == some name)

/-- Takes a step, before the tasks are run again. -/
def act (step : Step) (bench : Bench) : Outcome × Bench :=
  match step with
  | .setFailing action value =>
    (.done, { bench with broker := bench.broker.setFailing action value })
  | .setLatency latency => (.done, { bench with broker := { bench.broker with latency } })
  | .advance span => (.done, { bench with clock := bench.clock + span })
  | .setSignal name value => (.done, { bench with signals := assign name value bench.signals })
  | .releaseSignal name =>
    (if (bench.signals.lookup name).isSome then .done else .unknown, bench)
  | .openReader name params =>
    let port := bench.ports + 1
    match (Reader.attach port params).make bench.broker with
    | (.error error, broker) => (.sourceError error, { bench with broker := broker })
    | (.ok reader, broker) =>
      let seat : Seat := ⟨reader, []⟩
      (.consumer reader.consumer,
        { bench with
          broker := broker
          ports := port
          seats := bench.seats ++ [(port, seat)]
          readers := assign name port bench.readers }.prune)
  | .hasNext name =>
    match bench.seat? name with
    | none => (.unknown, bench)
    | some (port, seat) =>
      let (found, reader) := seat.reader.hasNext
      (.truth found, bench.setReader port reader)
  | .dropReader name =>
    if (bench.readers.lookup name).isSome then
      (.done, { bench with readers := bench.readers.filter (·.1 != name) }.prune)
    else (.unknown, bench)
  | .openWriter name params =>
    match (Writer.attach params).make bench.broker with
    | (.error error, broker) => (.writeError error, { bench with broker := broker })
    | (.ok writer, broker) =>
      (.options writer.options,
        { bench with broker := broker, writers := assign name writer bench.writers })
  | .showBroker => (.broker bench.broker, bench)
  | .subscribe name subject capacity =>
    let port := bench.ports + 1
    match (MemoryBroker.subscribe port).make bench.broker with
    | (.error error, broker) => (.brokerError error, { bench with broker := broker })
    | (.ok (), broker) =>
      (.subject subject,
        { bench with
          broker := broker
          ports := port
          listeners := assign name ⟨port, .fresh capacity, true, []⟩ bench.listeners })
  | .receive name => bench.receive name
  | .call order task => bench.start order task
  | .join name =>
    match bench.named? name with
    | none => (.unknown, bench)
    | some task =>
      match task.state with
      | .ended outcome => (outcome, bench.dismiss task)
      | .running _ => (.pending, bench)
  | .abort name =>
    match bench.named? name with
    | none => (.unknown, bench)
    | some task =>
      match task.state with
      | .ended outcome => (outcome, bench.dismiss task)
      | .running _ => (.aborted, bench.dismiss task)

/-- Takes a step and runs all tasks. -/
def take (step : Step) (bench : Bench) : Outcome × Bench :=
  let (outcome, bench) := bench.act step
  (outcome, bench.settle)

/-- Takes steps in order; gives the outcome of each, and the bench after it. -/
def run : List Step → Bench → List (Outcome × Bench)
  | [], _ => []
  | step :: rest, bench =>
    let (outcome, bench) := bench.take step
    (outcome, bench) :: run rest bench

end StreamBridge.Bench
