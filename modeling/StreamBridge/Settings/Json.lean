import StreamBridge.Settings.Basic

/-! Settings written as JSON. What a section leaves out keeps its default. -/

namespace StreamBridge

/-- A member that is read by itself and then put into the settings. -/
def settingsMember {σ α : Type} (name : String) (reader : Json.Reader α) (store : σ → α → σ) :
    Json.Member σ :=
  ⟨name, fun settings rest => do
    let (value, rest) ← reader rest
    .ok (store settings value, rest)⟩

/-- Settings that start from their defaults, so that no member has to be there. -/
def settingsShape {σ : Type} (name : String) (default : σ) (members : List (Json.Member σ)) :
    Json.RecordShape σ σ where
  expected := "struct " ++ name
  members := members
  start := default
  finish settings := .ok settings
  finishList _ settings := .ok settings

/-- How the connection is written. -/
def ConnectionSettings.shape : Json.RecordShape ConnectionSettings ConnectionSettings :=
  settingsShape "ConnectionConfig" .default
    [settingsMember "urls" (Json.listOf (Json.text Json.aString))
       fun settings value => { settings with urls := value },
     settingsMember "connection_name" (Json.optional (Json.text Json.aString))
       fun settings value => { settings with name := value },
     settingsMember "max_reconnects" (Json.word Decimal.maxWord "usize")
       fun settings value => { settings with maxReconnects := value },
     settingsMember "reconnect_wait_secs" (Json.word Decimal.maxWord "u64")
       fun settings value => { settings with reconnectWait := value }]

/-- How a source is written. -/
def SourceSettings.shape (durable : String) : Json.RecordShape SourceSettings SourceSettings :=
  settingsShape "SourceConfig" (.default durable)
    [settingsMember "subject" (Json.text Json.aString)
       fun settings value => { settings with subject := value },
     settingsMember "stream" (Json.text Json.aString)
       fun settings value => { settings with stream := value },
     settingsMember "durable" (Json.text Json.aString)
       fun settings value => { settings with durable := value },
     settingsMember "buffer_size" (Json.word Decimal.maxWord "usize")
       fun settings value => { settings with bufferSize := value },
     settingsMember "deliver_policy" DeliverPolicy.read
       fun settings value => { settings with deliverPolicy := value },
     settingsMember "ack_policy" AckPolicy.read
       fun settings value => { settings with ackPolicy := value },
     settingsMember "position" (Json.optional (Json.text Json.aString))
       fun settings value => { settings with position := value }]

/-- How a destination is written. -/
def DestinationSettings.shape : Json.RecordShape DestinationSettings DestinationSettings :=
  settingsShape "DestinationConfig" .default
    [settingsMember "subject" (Json.text Json.aString)
       fun settings value => { settings with subject := value },
     settingsMember "batch_size" (Json.word Decimal.maxWord "usize")
       fun settings value => { settings with batchSize := value },
     settingsMember "retry_wait_ms" (Json.word Decimal.maxWord "u64")
       fun settings value => { settings with retryWait := value },
     settingsMember "retry_attempts" (Json.word Decimal.maxHalfWord "u32")
       fun settings value => { settings with retryAttempts := value }]

namespace Settings

/-- How settings are written; `durable` names the durable consumer where a source leaves it out. -/
def shape (durable : String) : Json.RecordShape Settings Settings :=
  settingsShape "Config" .default
    [settingsMember "connection" ConnectionSettings.shape.read
       fun settings value => { settings with connection := value },
     settingsMember "source" (Json.optional (SourceSettings.shape durable).read)
       fun settings value => { settings with source := value },
     settingsMember "destination" (Json.optional DestinationSettings.shape.read)
       fun settings value => { settings with destination := value }]

/-- Reads settings from a JSON text. -/
def ofJson (durable : String) (input : Bytes) : Except Json.ReadError Settings :=
  Json.readAll (shape durable).read input

end Settings
end StreamBridge
