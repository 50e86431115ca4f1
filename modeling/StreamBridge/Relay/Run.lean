import StreamBridge.Relay.Records
import StreamBridge.Relay.Lines
import StreamBridge.Settings.Check

/-! Whole runs of a relay: connect, open one end at the broker, relay, and tear down. The teardown
follows every relay that was begun, however it ended, and its failure hides that of the relay. -/

namespace StreamBridge

/-- Why a run failed. -/
inductive RunError where
  | settings (fault : SettingsFault)
  | connect (error : BrokerError)
  | source (error : SourceError)
  | destination (error : LineError)

/-- How far a run has come. `result` is there once it has ended, `output` is what it wrote. -/
structure Run (β : Type) where
  result : Option (Except RunError Unit)
  output : Bytes
  broker : β

namespace Run

variable {β ρ : Type}

/-- A run that ended before its relay began. -/
def refused (error : RunError) (broker : β) : Run β := ⟨some (.error error), [], broker⟩

/-- The result of a relay and its teardown. -/
def combine {ε : Type} (relay teardown : Except ε Unit) : Except ε Unit :=
  match teardown with
  | .error error => .error error
  | .ok () => relay

/-- Connects and attaches a reader. -/
def openSource [Broker β ρ] (connection : ConnectionSettings) (params : SourceParams) :
    Request β RunError (Reader ρ) := do
  Request.mapError .connect (Broker.connect connection)
  Request.mapError .source (Reader.attach 0 params)

/-- Stops the reader of a relay that has ended; one that still works leaves the run without a
result. -/
def stopSource [Broker β ρ] (relay : RecordRelay β ρ) : Run β :=
  match relay.phase with
  | .ended result =>
    let ((stopped, _), broker) := relay.reader.stop relay.broker
    ⟨stopped.map fun stopped => (combine result stopped).mapError .source, relay.output, broker⟩
  | .reading | .acknowledging _ => ⟨none, relay.output, relay.broker⟩

/-- Runs from a source to the output. -/
def source [Broker β ρ] (clock : Clock) (settings : Settings)
    (schedule : List (Happening β ρ)) (broker : β) : Run β :=
  match settings.source with
  | none => refused (.settings .noSource) broker
  | some source =>
    match (openSource settings.connection source.params).make broker with
    | (.error error, broker) => refused error broker
    | (.ok reader, broker) => stopSource ((RecordRelay.start reader broker).run clock schedule)

/-- Connects and attaches a writer. -/
def openDestination [Broker β ρ] (connection : ConnectionSettings) (params : DestinationParams) :
    Request β RunError Writer := do
  Request.mapError .connect (Broker.connect connection)
  Request.mapError (fun error => .destination (.write error)) (Writer.attach params)

/-- Closes the writer of a relay that has ended. -/
def closeDestination [Broker β ρ] (relay : LineRelay β) : Run β :=
  match relay.result with
  | none => ⟨none, [], relay.broker⟩
  | some result =>
    let ((closed, _), broker) := relay.writer.close relay.broker
    ⟨some ((combine result (closed.mapError .write)).mapError .destination), [], broker⟩

/-- Runs from the input to a destination. -/
def destination [Broker β ρ] (settings : Settings) (schedule : List (Happening β ρ))
    (broker : β) : Run β :=
  match settings.destination with
  | none => refused (.settings .noDestination) broker
  | some destination =>
    match (openDestination settings.connection destination.params).make broker with
    | (.error error, broker) => refused error broker
    | (.ok writer, broker) => closeDestination ((LineRelay.start writer broker).run schedule)

end Run
end StreamBridge
