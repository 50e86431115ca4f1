import StreamBridge.Json.Fit
import StreamBridge.Time.Internet

/-! Streams and consumers as a server describes them. A description has to fit as a whole, though a
client looks at little of it. -/

namespace StreamBridge.Nats

open Json.Fit
open Json.Fit.Part

/-- What a client looks at in the description of a consumer. `heartbeat` is in nanoseconds. -/
structure ConsumerDescription where
  stream : String
  name : String
  deliverSubject : Option String
  heartbeat : Int
deriving DecidableEq, Repr

namespace Description

/-- Takes a moment in the Internet form. -/
def moment : Json.Fit String := such text Time.Internet.isMoment

/-- Takes a span of time in nanoseconds. -/
def span : Json.Fit Nat := word

/-- Takes how a subject is mapped to another. -/
def mapping : Json.Fit Unit := record [required "src" text, required "dest" text] ()

/-- Takes a follower of a leading server. -/
def follower : Json.Fit Unit :=
  record
    [required "name" text, required "current" truth, required "active" span,
     defaulted "offline" truth, nullable "lag" word] ()

/-- Takes the servers behind a stream or a consumer. -/
def cluster : Json.Fit Unit :=
  record [nullable "name" text, nullable "leader" text, defaulted "replicas" (listOf follower)] ()

/-- Takes the state of another stream that is copied. -/
def copied : Json.Fit Unit :=
  record
    [required "name" text, required "lag" word, required "active" (signed 64),
     either "filter_subject" text, either "subject_transform_dest" text,
     defaulted "subject_transforms" (listOf mapping)] ()

/-- Takes where another account is reached. -/
def foreign : Json.Fit Unit := record [required "api" text, nullable "deliver" text] ()

/-- Takes another stream that is to be copied. -/
def copy : Json.Fit Unit :=
  record
    [required "name" text, either "opt_start_seq" word, either "opt_start_time" moment,
     either "filter_subject" text, either "external" foreign, either "domain" text,
     defaulted "subject_transforms" (listOf mapping)] ()

/-- Takes where messages are published again. -/
def republished : Json.Fit Unit :=
  record [required "src" text, required "dest" text, defaulted "headers_only" truth] ()

/-- Takes the limits that consumers start with. -/
def limits : Json.Fit Unit :=
  record [defaulted "inactive_threshold" span, defaulted "max_ack_pending" (signed 64)] ()

/-- Takes which servers are to hold a stream. -/
def placement : Json.Fit Unit :=
  record [either "cluster" text, defaulted "tags" (listOf text)] ()

/-- Takes the configuration of a stream. -/
def streamConfig : Json.Fit Unit :=
  record
    [required "name" text, defaulted "max_bytes" (signed 64), defaulted "max_msgs" (signed 64),
     defaulted "max_msgs_per_subject" (signed 64), required "discard" (nameOf ["old", "new"]),
     defaulted "discard_new_per_subject" truth, defaulted "subjects" (listOf text),
     required "retention" (nameOf ["limits", "interest", "workqueue"]),
     defaulted "max_consumers" (signed 32), defaulted "max_age" span,
     defaulted "max_msg_size" (signed 32), required "storage" (nameOf ["file", "memory"]),
     required "num_replicas" word, defaulted "no_ack" truth, defaulted "duplicate_window" span,
     defaulted "template_owner" text, defaulted "sealed" truth, either "description" text,
     defaulted "allow_rollup_hdrs" truth, defaulted "deny_delete" truth,
     defaulted "deny_purge" truth, either "republish" republished,
     defaulted "allow_direct" truth, defaulted "mirror_direct" truth, either "mirror" copy,
     either "sources" (listOf copy), defaulted "metadata" (entries text),
     either "subject_transform" mapping, either "compression" (nameOf ["s2", "none"]),
     either "consumer_limits" limits, either "first_seq" word, either "placement" placement] ()

/-- Takes the state of a stream. -/
def streamState : Json.Fit Unit :=
  record
    [required "messages" word, required "bytes" word, required "first_seq" word,
     required "first_ts" moment, required "last_seq" word, required "last_ts" moment,
     required "consumer_count" word, defaulted "num_subjects" word, either "num_deleted" word,
     either "deleted" (listOf word), nullable "subjects" (entries word)] ()

/-- Takes the description of a stream. -/
def stream : Json.Fit Unit :=
  object
    [required "config" streamConfig, required "created" moment, required "state" streamState,
     nullable "cluster" cluster, either "mirror" copied, defaulted "sources" (listOf copied)] ()

/-- The policies that say where delivery starts, with the further part that each asks for. -/
def startPolicies : List (String × List (Json.Fit.Part Unit)) :=
  [("all", []), ("last", []), ("new", []),
   ("by_start_sequence", [required "opt_start_seq" word]),
   ("by_start_time", [required "opt_start_time" moment]), ("last_per_subject", [])]

/-- Takes a policy by its name or its number. -/
def startPolicy : Json.Fit (List (Json.Fit.Part Unit))
  | .text name => startPolicies.lookup name
  | .natural position => startPolicies[position]?.map Prod.snd
  | _ => none

/-- Takes an object that says where delivery starts. -/
def start : Json.Fit Unit := fun value => do
  let parts ← object [keep "deliver_policy" .refused startPolicy fun _ parts => parts] [] value
  object parts () value

/-- Takes a share of messages in percent. -/
def share : Json.Fit String :=
  such text fun written =>
    let ending := (written.toList.dropWhile (· != '%')).take 2
    let digits := written.toList.takeWhile (· != '%')
    (ending == ['%'] || ending == ['%', '%'])
      && (Decimal.readUnsigned 255 digits).toOption.isSome

/-- What is kept of a consumer's configuration: its deliver subject and its heartbeat. -/
abbrev ConfigDraft := Option String × Nat

/-- The parts of a consumer's configuration, but for the start of delivery. -/
def consumerParts : List (Json.Fit.Part ConfigDraft) :=
  [keep "deliver_subject" .inObjects (optional text) fun draft subject => (subject, draft.2),
   nullable "durable_name" text, either "name" text, either "description" text,
   either "deliver_group" text, required "ack_policy" (nameOf ["none", "all", "explicit"]),
   defaulted "ack_wait" span, defaulted "max_deliver" (signed 64),
   defaulted "filter_subject" text, defaulted "filter_subjects" (listOf text),
   required "replay_policy" (nameOf ["instant", "original"]), defaulted "rate_limit_bps" word,
   defaulted "sample_freq" share, defaulted "max_waiting" (signed 64),
   defaulted "max_ack_pending" (signed 64), defaulted "headers_only" truth,
   defaulted "flow_control" truth,
   keep "idle_heartbeat" .allowed span fun draft span => (draft.1, span),
   defaulted "max_batch" (signed 64), defaulted "max_bytes" (signed 64),
   defaulted "max_expires" span, defaulted "inactive_threshold" span,
   defaulted "num_replicas" word, defaulted "mem_storage" truth,
   defaulted "metadata" (entries text), defaulted "backoff" (listOf span)]

/-- Takes the configuration of a consumer. -/
def consumerConfig : Json.Fit ConfigDraft := fun value => do
  start value
  object consumerParts (none, 0) value

/-- Takes how far a consumer has come. -/
def progress : Json.Fit Unit :=
  record
    [required "consumer_seq" word, required "stream_seq" word, either "last_active" moment] ()

/-- Takes the description of a consumer. -/
def consumer : Json.Fit ConsumerDescription :=
  record
    [keep "stream_name" .refused text fun draft stream => { draft with stream },
     keep "name" .refused text fun draft name => { draft with name },
     required "created" moment,
     keep "config" .refused consumerConfig fun draft config =>
       { draft with deliverSubject := config.1, heartbeat := config.2 },
     required "delivered" progress, required "ack_floor" progress,
     required "num_ack_pending" word, required "num_redelivered" word,
     required "num_waiting" word, required "num_pending" word, nullable "cluster" cluster,
     defaulted "push_bound" truth] ⟨"", "", none, 0⟩

end Description
end StreamBridge.Nats
