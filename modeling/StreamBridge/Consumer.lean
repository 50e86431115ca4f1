import StreamBridge.Json.Read
import StreamBridge.Time.Duration

/-! Consumers: what a broker is asked to deliver, and under which terms. -/

namespace StreamBridge

/-- Where in the stream a new consumer starts. -/
inductive DeliverPolicy where
  /-- From the earliest message. -/
  | all
  /-- Only messages stored after the consumer was made. -/
  | new
  /-- From a sequence on. -/
  | byStartSequence (start : UInt64)
deriving DecidableEq, Repr, Inhabited

namespace DeliverPolicy

/-- The sequence to start from, if the policy names one. -/
def startSequence? : DeliverPolicy → Option UInt64
  | .byStartSequence start => some start
  | .all | .new => none

/-- How the start sequence is written. -/
def startShape : Json.RecordShape (Option UInt64) DeliverPolicy where
  expected := "struct variant DeliverPolicy::ByStartSequence"
  members := [⟨"start_sequence", fun _ rest => do
    let (value, rest) ← Json.word Decimal.maxWord "u64" rest
    .ok (some value.toUInt64, rest)⟩]
  start := none
  finish draft := draft.elim (.error (.missing "start_sequence")) fun start =>
    .ok (.byStartSequence start)
  finishList count draft := draft.elim
    (.error (.badLength count "struct variant DeliverPolicy::ByStartSequence with 1 element"))
    fun start => .ok (.byStartSequence start)

/-- Reads a deliver policy. -/
def read : Json.Reader DeliverPolicy :=
  Json.oneOf [("all", .unit .all), ("new", .unit .new),
    ("by_start_sequence", .record startShape.read)]

end DeliverPolicy

/-- Which delivered messages need an acknowledgement. -/
inductive AckPolicy where
  /-- Each by itself. -/
  | explicit
  /-- Each, and an acknowledgement covers all before it. -/
  | all
  /-- None. -/
  | none
deriving DecidableEq, Repr, Inhabited

namespace AckPolicy

/-- The name of a policy. -/
def name : AckPolicy → String
  | .explicit => "explicit"
  | .all => "all"
  | .none => "none"

/-- Reads an acknowledgement policy. -/
def read : Json.Reader AckPolicy :=
  Json.oneOf [("explicit", .unit .explicit), ("all", .unit .all), ("none", .unit .none)]

end AckPolicy

/-- How fast messages are replayed. -/
inductive ReplayPolicy where
  | instant
  | original
deriving DecidableEq, Repr, Inhabited

/-- The name of a policy. -/
def ReplayPolicy.name : ReplayPolicy → String
  | .instant => "instant"
  | .original => "original"

/-- How often a broker shows that a silent subscription is still served. -/
def heartbeatInterval : Duration := .ofSeconds 2

/-- The terms of a durable push consumer. -/
structure ConsumerConfig where
  durableName : String
  deliverSubject : String
  deliverPolicy : DeliverPolicy
  ackPolicy : AckPolicy
  replayPolicy : ReplayPolicy
  flowControl : Bool
  idleHeartbeat : Duration
deriving DecidableEq, Repr, Inhabited

/-- A consumer as the broker knows it. -/
structure Consumer where
  stream : String
  name : String
  config : ConsumerConfig
deriving DecidableEq, Repr, Inhabited

end StreamBridge
