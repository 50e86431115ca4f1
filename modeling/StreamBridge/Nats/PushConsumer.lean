import StreamBridge.Consumer
import StreamBridge.Json.Print

/-! Push consumers as a NATS server is asked for them. -/

namespace StreamBridge.Nats

/-- The configuration of a push consumer. Zero, false and the empty filter leave a choice to the
server. -/
structure PushConfig where
  durableName : Option String
  deliverSubject : String
  deliverPolicy : DeliverPolicy
  ackPolicy : AckPolicy
  replayPolicy : ReplayPolicy
  flowControl : Bool
  idleHeartbeat : Duration
  name : Option String
  description : Option String
  deliverGroup : Option String
  ackWait : Duration
  maxDeliver : Nat
  maxAckPending : Nat
  rateLimit : Nat
  replicas : Nat
  filterSubject : String
  headersOnly : Bool
  memoryStorage : Bool
deriving DecidableEq, Repr

namespace PushConfig

/-- The configuration of a consumer; all it does not speak of is left to the server. -/
def ofConsumer (config : ConsumerConfig) : PushConfig where
  durableName := some config.durableName
  deliverSubject := config.deliverSubject
  deliverPolicy := config.deliverPolicy
  ackPolicy := config.ackPolicy
  replayPolicy := config.replayPolicy
  flowControl := config.flowControl
  idleHeartbeat := config.idleHeartbeat
  name := none
  description := none
  deliverGroup := none
  ackWait := ⟨0⟩
  maxDeliver := 0
  maxAckPending := 0
  rateLimit := 0
  replicas := 0
  filterSubject := ""
  headersOnly := false
  memoryStorage := false

/-- A text member that may be absent. -/
def textMember (name : String) (value : Option String) : List (String × Bytes) :=
  value.elim [] fun text => [(name, Json.writeText text)]

/-- A number member, left out where it is zero. -/
def numberMember (name : String) (value : Nat) : List (String × Bytes) :=
  if value = 0 then [] else [(name, Json.writeNatural value)]

/-- A span of time in nanoseconds, as it is sent: a span too large for a signed 64-bit number starts
over below the smallest one. -/
def sentSpan (span : Duration) : Int := Int.bmod span.nanoseconds (Nat.pow 2 64)

/-- A member for a span of time, left out where that is zero. -/
def spanMember (name : String) (span : Duration) : List (String × Bytes) :=
  if span.nanoseconds = 0 then [] else [(name, Json.writeInteger (sentSpan span))]

/-- A truth member, left out where it is false. -/
def flagMember (name : String) (value : Bool) : List (String × Bytes) :=
  if value then [(name, Ascii.bytes "true")] else []

/-- The members that say where delivery starts. -/
def policyMembers : DeliverPolicy → List (String × Bytes)
  | .all => [("deliver_policy", Json.writeText "all")]
  | .new => [("deliver_policy", Json.writeText "new")]
  | .byStartSequence start =>
    [("deliver_policy", Json.writeText "by_start_sequence"),
     ("opt_start_seq", Json.writeNatural start.toNat)]

/-- Writes a configuration; spans of time are in nanoseconds. -/
def write (config : PushConfig) : Bytes :=
  Json.writeObject
    (textMember "deliver_subject" (some config.deliverSubject)
      ++ textMember "durable_name" config.durableName
      ++ textMember "name" config.name
      ++ textMember "description" config.description
      ++ textMember "deliver_group" config.deliverGroup
      ++ policyMembers config.deliverPolicy
      ++ [("ack_policy", Json.writeText config.ackPolicy.name)]
      ++ spanMember "ack_wait" config.ackWait
      ++ numberMember "max_deliver" config.maxDeliver
      ++ (if config.filterSubject = "" then []
        else [("filter_subject", Json.writeText config.filterSubject)])
      ++ [("replay_policy", Json.writeText config.replayPolicy.name)]
      ++ numberMember "rate_limit_bps" config.rateLimit
      ++ numberMember "max_ack_pending" config.maxAckPending
      ++ flagMember "flow_control" config.flowControl
      ++ spanMember "idle_heartbeat" config.idleHeartbeat
      ++ flagMember "headers_only" config.headersOnly
      ++ numberMember "num_replicas" config.replicas
      ++ flagMember "mem_storage" config.memoryStorage)

/-- The request for a consumer on a stream. -/
def request (stream : String) (config : PushConfig) : Bytes :=
  Json.writeObject
    [("stream_name", Json.writeText stream), ("config", config.write),
     ("action", Json.writeText "")]

end PushConfig
end StreamBridge.Nats
