import StreamBridge.Bench.State

/-! Running the tasks of a bench: each goes on until it has to wait, and all are run until every one
of them waits. Calls whose waiting time is over come first, in the order of their times. -/

namespace StreamBridge.Bench

/-- What a step of a call gives. -/
abbrev CallProgress := Progress Call Outcome

/-- Wraps the stages of a call. -/
def progress {σ α : Type} (stage : σ → Call) (outcome : α → Outcome) :
    Progress σ α → CallProgress
  | .next next => .next (stage next)
  | .waiting => .waiting
  | .finished result => .finished (outcome result)

/-- Sends a message to the live subscription. -/
def sendLive (number : Nat) (delivery : Delivery UInt64) (bench : Bench) : CallProgress × Bench :=
  match bench.broker.live with
  | none => (.finished (.brokerError MemoryBroker.noSubscription), bench)
  | some port =>
    match bench.channel? port with
    | none => (.finished (.brokerError .closed), bench)
    | some channel =>
      match channel.send number delivery with
      | (.accepted, channel) => (.finished .done, bench.setChannel port channel)
      | (.waiting, channel) => (.next (.delivering port), bench.setChannel port channel)
      | (.refused, _) => (.finished (.brokerError .closed), bench)

/-- Waits for room in a channel. -/
def awaitRoom (number port : Nat) (bench : Bench) : CallProgress :=
  match bench.channel? port with
  | none => .finished (.brokerError .closed)
  | some channel =>
    if channel.awaits number then .waiting
    else if channel.closed then .finished (.brokerError .closed)
    else .finished .done

/-- Notes the token of a record that a reader handed out. -/
def noteToken (port : Nat) (result : Except SourceError Record) (bench : Bench) : Bench :=
  match result with
  | .error _ => bench
  | .ok record =>
    { bench with
      seats := bench.seats.map fun (other, seat) =>
        (other, if other == port then { seat with tokens := seat.tokens ++ [record.position] }
          else seat) }

/-- One step of a read on a bench. -/
def stepReading (number port : Nat) (signal : Option String) (stage : ReadStage UInt64)
    (bench : Bench) : CallProgress × Bench :=
  match bench.seats.lookup port with
  | none => (.finished .unknown, bench)
  | some seat =>
    let fed := Broker.feeds bench.broker port
    let (step, reader) := seat.reader.stepRead number (bench.cancelled signal) fed stage
    let bench := bench.setReader port reader
    match step with
    | .finished result => (.finished (.ofRead result), bench.noteToken port result)
    | step => (progress (.reading port signal) .ofRead step, bench)

/-- One step of an acknowledgement on a bench. -/
def stepAcknowledging (number port : Nat) (token : Token) (stage : AckStage UInt64)
    (bench : Bench) : CallProgress × Bench :=
  match bench.seats.lookup port with
  | none => (.finished .unknown, bench)
  | some seat =>
    let ((step, reader), broker) := seat.reader.stepAck number token bench.clock stage bench.broker
    (progress (.acknowledging port token) .ofSource step,
      { bench.setReader port reader with broker := broker })

/-- One step of a stop on a bench. -/
def stepStopping (number port : Nat) (stage : StopStage) (bench : Bench) : CallProgress × Bench :=
  match bench.seats.lookup port with
  | none => (.finished .unknown, bench)
  | some seat =>
    let ((step, reader), broker) := seat.reader.stepStop number stage bench.broker
    (progress (.stopping port) .ofSource step,
      { bench.setReader port reader with broker := broker })

/-- One step of a call. -/
def stepCall (number : Nat) (call : Call) (bench : Bench) : CallProgress × Bench :=
  match call with
  | .sending delivery => bench.sendLive number delivery
  | .delivering port => (bench.awaitRoom number port, bench)
  | .reading port signal stage => bench.stepReading number port signal stage
  | .acknowledging port token stage => bench.stepAcknowledging number port token stage
  | .stopping port stage => bench.stepStopping number port stage
  | .confirming due sequence =>
    if bench.clock < due then (.waiting, bench)
    else
      let (answer, broker) := (MemoryBroker.acknowledge sequence).make bench.broker
      (.finished (.ofBroker answer), { bench with broker := broker })
  | .settled outcome => (.finished outcome, bench)

/-- Runs a call until it ends or has to wait; no call has more stages than `fuel`. -/
def runCall (number : Nat) : Nat → Call → Bench → TaskState × Bench
  | 0, call, bench => (.running call, bench)
  | fuel + 1, call, bench =>
    match bench.stepCall number call with
    | (.next call, bench) => runCall number fuel call bench
    | (.waiting, bench) => (.running call, bench)
    | (.finished outcome, bench) => (.ended outcome, bench)

/-- More than the stages of any call. -/
def maxStages : Nat := 8

/-- Replaces the state of a task. -/
def setTask (number : Nat) (state : TaskState) (bench : Bench) : Bench :=
  { bench with
    tasks := bench.tasks.map fun task =>
      if task.number == number then { task with state := state } else task }

/-- Runs a task that has not ended. -/
def runTask (task : Task) (bench : Bench) : Bench :=
  match task.state with
  | .ended _ => bench
  | .running call =>
    let (state, bench) := bench.runCall task.number maxStages call
    bench.setTask task.number state

/-- The time that a task waits for. -/
def Task.due (now : Duration) (task : Task) : Duration :=
  match task.state with
  | .running (.acknowledging _ _ (.asking due _)) | .running (.confirming due _) => due
  | _ => now

/-- The tasks that have not ended, in the order in which they are run. -/
def runnable (bench : Bench) : List Task :=
  let running := bench.tasks.filter fun task =>
    match task.state with
    | .running _ => true
    | .ended _ => false
  running.mergeSort fun first second =>
    (first.due bench.clock).nanoseconds ≤ (second.due bench.clock).nanoseconds

/-- Runs each task once. -/
def runRound (bench : Bench) : Bench :=
  bench.runnable.foldl (fun bench task =>
    match bench.tasks.find? (·.number == task.number) with
    | some task => bench.runTask task
    | none => bench) bench

/-- Runs rounds. -/
def runRounds : Nat → Bench → Bench
  | 0, bench => bench
  | rounds + 1, bench => runRounds rounds bench.runRound

/-- Runs all tasks until every one waits. A round that changes anything takes a task to a later
stage, so there are at most as many of them as stages. -/
def settle (bench : Bench) : Bench :=
  (runRounds (maxStages * bench.runnable.length) bench).prune

/-- What a call that is given up leaves behind: its places in line are free. -/
def release (number : Nat) (call : Call) (bench : Bench) : Bench :=
  let onReader (port : Nat) (change : Reader UInt64 → Reader UInt64) : Bench :=
    match bench.seats.lookup port with
    | some seat => bench.setReader port (change seat.reader)
    | none => bench
  match call with
  | .delivering port =>
    match bench.channel? port with
    | some channel => bench.setChannel port (channel.leave number)
    | none => bench
  | .reading port _ _ => onReader port (·.leaveChannel number)
  | .acknowledging port _ _ => onReader port (·.leaveGate number)
  | .stopping port _ => onReader port fun reader => (reader.leaveChannel number).leaveGate number
  | .sending _ | .confirming _ _ | .settled _ => bench

/-- Takes a task away; a call that has not ended is given up. -/
def dismiss (task : Task) (bench : Bench) : Bench :=
  let bench := { bench with tasks := bench.tasks.filter (·.number != task.number) }
  match task.state with
  | .running call => bench.release task.number call
  | .ended _ => bench

end StreamBridge.Bench
