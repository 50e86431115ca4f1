import StreamBridge.Base64
import StreamBridge.Bench.Run
import StreamBridge.Bench.State
import StreamBridge.Bench.Step
import StreamBridge.Bench.Task
import StreamBridge.Broker.Basic
import StreamBridge.Broker.Connection
import StreamBridge.Broker.Error
import StreamBridge.Broker.Memory
import StreamBridge.Bytes
import StreamBridge.Channel
import StreamBridge.Command.Outline
import StreamBridge.Command.Run
import StreamBridge.Consumer
import StreamBridge.Decimal.Binary
import StreamBridge.Decimal.Integer
import StreamBridge.Decimal.Shortest
import StreamBridge.Destination.Error
import StreamBridge.Destination.Params
import StreamBridge.Destination.Writer
import StreamBridge.Forwarding
import StreamBridge.Json.Fault
import StreamBridge.Json.Fit
import StreamBridge.Json.Print
import StreamBridge.Json.Read
import StreamBridge.Json.Scan
import StreamBridge.Json.Value
import StreamBridge.Main
import StreamBridge.Nats.Address
import StreamBridge.Nats.Client
import StreamBridge.Nats.Description
import StreamBridge.Nats.PushConsumer
import StreamBridge.Nats.Reply
import StreamBridge.Nats.Request
import StreamBridge.Nats.Server
import StreamBridge.Nats.Session.Run
import StreamBridge.Nats.Session.Step
import StreamBridge.Position
import StreamBridge.Progress
import StreamBridge.Proofs.AtomicAcknowledgements
import StreamBridge.Proofs.Attachments
import StreamBridge.Proofs.Base64Text
import StreamBridge.Proofs.BrokerRequests
import StreamBridge.Proofs.CalendarDays
import StreamBridge.Proofs.CancelledReads
import StreamBridge.Proofs.ChannelOrder
import StreamBridge.Proofs.CheckedSettings
import StreamBridge.Proofs.DecimalDigits
import StreamBridge.Proofs.DecodedTokens
import StreamBridge.Proofs.DeliveryOrder
import StreamBridge.Proofs.FailedReads
import StreamBridge.Proofs.FinalStop
import StreamBridge.Proofs.ForwardedMessages
import StreamBridge.Proofs.ForwardingProgress
import StreamBridge.Proofs.GatedAcknowledgements
import StreamBridge.Proofs.InputLines
import StreamBridge.Proofs.IntegerTexts
import StreamBridge.Proofs.JsonGrammar
import StreamBridge.Proofs.JsonNumbers
import StreamBridge.Proofs.JsonNumerals
import StreamBridge.Proofs.JsonReaders
import StreamBridge.Proofs.JsonRecords
import StreamBridge.Proofs.JsonSkipping
import StreamBridge.Proofs.JsonSpellings
import StreamBridge.Proofs.JsonStrings
import StreamBridge.Proofs.KeptViews
import StreamBridge.Proofs.LayeredSettings
import StreamBridge.Proofs.Lifecycles
import StreamBridge.Proofs.LoopEnds
import StreamBridge.Proofs.MomentText
import StreamBridge.Proofs.NumberTexts
import StreamBridge.Proofs.Outcomes
import StreamBridge.Proofs.PositionTokens
import StreamBridge.Proofs.PublishRetries
import StreamBridge.Proofs.PublishedLines
import StreamBridge.Proofs.ReaderCalls
import StreamBridge.Proofs.ReaderSession
import StreamBridge.Proofs.RecordLine
import StreamBridge.Proofs.RecordTexts
import StreamBridge.Proofs.RecordsAhead
import StreamBridge.Proofs.RelayHistory
import StreamBridge.Proofs.RelayOutput
import StreamBridge.Proofs.RelayTurns
import StreamBridge.Proofs.ReplySubjects
import StreamBridge.Proofs.ResumePosition
import StreamBridge.Proofs.RunTeardown
import StreamBridge.Proofs.ServedMessages
import StreamBridge.Proofs.SessionAcknowledgements
import StreamBridge.Proofs.SessionConservation
import StreamBridge.Proofs.SessionHistory
import StreamBridge.Proofs.SessionSteps
import StreamBridge.Proofs.SettingFields
import StreamBridge.Proofs.SettingForms
import StreamBridge.Proofs.SettingLayers
import StreamBridge.Proofs.SettingMerge
import StreamBridge.Proofs.SettingOverrides
import StreamBridge.Proofs.SharedReader
import StreamBridge.Proofs.SharedSteps
import StreamBridge.Proofs.Teardown
import StreamBridge.Proofs.TextDecoding
import StreamBridge.Proofs.TextEncoding
import StreamBridge.Proofs.VariableTexts
import StreamBridge.Proofs.WatchedBroker
import StreamBridge.Proofs.WriterLog
import StreamBridge.Publishing
import StreamBridge.Publishing.Rehearsal
import StreamBridge.Publishing.Retry
import StreamBridge.Record
import StreamBridge.Relay.Happening
import StreamBridge.Relay.Input
import StreamBridge.Relay.Line
import StreamBridge.Relay.Lines
import StreamBridge.Relay.Records
import StreamBridge.Relay.Run
import StreamBridge.Script
import StreamBridge.Settings.Basic
import StreamBridge.Settings.Check
import StreamBridge.Settings.Decode
import StreamBridge.Settings.Durable
import StreamBridge.Settings.Json
import StreamBridge.Settings.Load
import StreamBridge.Settings.Path
import StreamBridge.Settings.Value
import StreamBridge.Source.Acknowledge
import StreamBridge.Source.Error
import StreamBridge.Source.Params
import StreamBridge.Source.Read
import StreamBridge.Source.Reader
import StreamBridge.Source.Stop
import StreamBridge.Text.Blank
import StreamBridge.Text.Cased
import StreamBridge.Text.Hidden
import StreamBridge.Text.Likeness
import StreamBridge.Text.LowerCase
import StreamBridge.Text.Quoted
import StreamBridge.Text.Split
import StreamBridge.Text.Utf8
import StreamBridge.Time.Date
import StreamBridge.Time.Duration
import StreamBridge.Time.Internet
import StreamBridge.Time.Timestamp
import StreamBridge.Url.Basic
import StreamBridge.Url.Domain
import StreamBridge.Url.Ipv4
import StreamBridge.Url.Ipv6
import StreamBridge.Url.Punycode
import StreamBridge.Url.Read
import StreamBridge.Yaml.Cursor
import StreamBridge.Yaml.Node
import StreamBridge.Yaml.Read
import StreamBridge.Yaml.Scan
import StreamBridge.Yaml.Tag
import StreamBridge.Yaml.Text
import StreamBridge.Yaml.Token
