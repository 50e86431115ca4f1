import StreamBridge.Settings.Basic

/-! Settings that a bridge cannot run with. -/

namespace StreamBridge

/-- Why settings are refused. -/
inductive SettingsFault where
  | noUrls
  | noSourceSubject
  | noSourceStream
  | emptyDurable
  | smallBuffer (size : Nat)
  | startSequence
  | noDestinationSubject
  | emptyBatch
  | noSource
  | noDestination
deriving DecidableEq, Repr

/-- The smallest capacity of a delivery channel. -/
def minBufferSize : Nat := 64

namespace SettingsFault

/-- The wording of a fault. -/
def reason : SettingsFault → String
  | .noUrls => "connection.urls must not be empty"
  | .noSourceSubject => "source.subject must be set"
  | .noSourceStream => "source.stream must be set"
  | .emptyDurable => "source.durable must not be empty"
  | .smallBuffer size => "source.buffer_size must be at least " ++ toString minBufferSize
      ++ ", got " ++ toString size
  | .startSequence => "source.deliver_policy must be all or new; use position to resume"
  | .noDestinationSubject => "destination.subject must be set"
  | .emptyBatch => "destination.batch_size must be at least 1"
  | .noSource => "source section is required"
  | .noDestination => "destination section is required"

/-- How a reason is reported. -/
def report (reason : String) : String := "invalid config: " ++ reason

/-- The report of a fault. -/
def message (fault : SettingsFault) : String := report fault.reason

end SettingsFault

/-- Fails unless a condition holds. -/
def Settings.require (condition : Bool) (fault : SettingsFault) : Except SettingsFault Unit :=
  if condition then .ok () else .error fault

/-- Checks a source: its names are there, its channel is large enough, and where it starts is not
set by a sequence. -/
def SourceSettings.check (settings : SourceSettings) : Except SettingsFault Unit := do
  Settings.require (settings.subject != "") .noSourceSubject
  Settings.require (settings.stream != "") .noSourceStream
  Settings.require (settings.durable != "") .emptyDurable
  Settings.require (minBufferSize ≤ settings.bufferSize) (.smallBuffer settings.bufferSize)
  Settings.require settings.deliverPolicy.startSequence?.isNone .startSequence

/-- Checks a destination: its subject is there, and a batch holds something. -/
def DestinationSettings.check (settings : DestinationSettings) : Except SettingsFault Unit := do
  Settings.require (settings.subject != "") .noDestinationSubject
  Settings.require (1 ≤ settings.batchSize) .emptyBatch

/-- Checks settings; the first fault counts. -/
def Settings.check (settings : Settings) : Except SettingsFault Unit := do
  Settings.require (!settings.connection.urls.isEmpty) .noUrls
  settings.source.elim (.ok ()) SourceSettings.check
  settings.destination.elim (.ok ()) DestinationSettings.check

end StreamBridge
