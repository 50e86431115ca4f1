import StreamBridge.Publishing.Retry
import StreamBridge.Nats.Server

/-! What a client makes of the server's responses. -/

namespace StreamBridge.Nats

/-- Why a request came to nothing. -/
inductive RequestFault where
  /-- Nobody answers on that subject. -/
  | noResponders
  | refused (error : ApiError)
  /-- The response cannot be read, or the request cannot be sent. -/
  | failed (reason : String)
deriving DecidableEq, Repr

namespace RequestFault

/-- Sending on a connection that is closed. -/
def disconnected : String := "channel closed"

/-- A request on a connection that is closed. -/
def closed : RequestFault := .failed ("request failed: " ++ disconnected)

/-- The report of a request on a subject that nobody answers on. -/
def unanswered : String := "requested JetStream resource does not exist"

/-- The report of a request that failed for a reason. -/
def failure (reason : String) : String := "request failed: " ++ reason

/-- The report of a failed look at a stream. -/
def streamMessage : RequestFault → String
  | .noResponders => "request error: " ++ unanswered
  | .refused error => "jetstream error: " ++ error.message
  | .failed reason => "request error: " ++ failure reason

/-- The report of a failed change of a consumer. -/
def changeMessage : RequestFault → String
  | .noResponders => failure unanswered
  | .refused error => "JetStream error: " ++ error.message
  | .failed reason => failure (failure reason)

/-- The report of a failed look at a consumer. -/
def consumerMessage : RequestFault → String
  | .noResponders => unanswered
  | .refused error => "nats: error while getting consumer info: " ++ error.message
  | .failed reason => failure reason

/-- The report of a failed attempt to publish. The server has numbers of its own for two
expectations about a stream's last message. -/
def publishFailure : RequestFault → PublishFailure
  | .noResponders => ⟨.noStream, none⟩
  | .refused error =>
    let fault :=
      if error.errorCode = 10071 then PublishFault.wrongLastSequence
      else if error.errorCode = 10070 then .wrongLastMessage
      else .other
    ⟨fault, some error.message⟩
  | .failed reason => ⟨.other, some reason⟩

end RequestFault

namespace Response

/-- Takes an error. -/
def error : Json.Fit ApiError :=
  Json.Fit.record
    [.keep "code" .refused Json.Fit.word fun draft code => { draft with code },
     .keep "err_code" .refused Json.Fit.word fun draft errorCode => { draft with errorCode },
     .keep "description" .inObjects (Json.Fit.optional Json.Fit.text)
       fun draft description => { draft with description }] ⟨0, 0, none⟩

/-- Takes a response that consists of an error. -/
def errorAlone : Json.Fit ApiError :=
  Json.Fit.object [.keep "error" .refused error fun _ error => error] ⟨0, 0, none⟩

/-- Takes the confirmation of a deletion. -/
def deletion : Json.Fit Unit := Json.Fit.record [.required "success" Json.Fit.truth] ()

/-- Takes the confirmation of a stored message. -/
def stored : Json.Fit Unit :=
  Json.Fit.record
    [.required "stream" Json.Fit.text, .required "seq" Json.Fit.word,
     .defaulted "domain" Json.Fit.text, .defaulted "duplicate" Json.Fit.truth] ()

/-- The report of a value that is no response to the request. -/
def misfit : String := "data did not match any variant of untagged enum Response"

/-- What a value says as the response to a request: an error, or what is expected. -/
def answer? {α : Type} (expected : Json.Fit α) (value : Json.Value) :
    Option (Except RequestFault α) :=
  match errorAlone value with
  | some error => some (.error (.refused error))
  | none => (expected value).map .ok

/-- The report of a text that is not well-formed. -/
def malformed (text : Bytes) (fault : Json.Fault) : RequestFault :=
  .failed (fault.locate text).message

/-- Reads a text as the response to a request. That nothing follows the value is asked last. -/
def readText {α : Type} (expected : Json.Fit α) (text : Bytes) : Except RequestFault α := do
  let (value, rest) ← (Json.Value.read text).mapError (malformed text)
  let some result := answer? expected value | throw (.failed misfit)
  (Json.atEnd rest).mapError (malformed text)
  result

/-- What a response comes to. -/
def read {α : Type} (expected : Json.Fit α) : Response α → Except RequestFault α
  | .proper value => .ok value
  | .noResponders => .error .noResponders
  | .refusal error => .error (.refused error)
  | .raw text => readText expected text

end Response

/-- What an attempt to publish comes to. -/
def Outcome.published : Outcome → Except RequestFault Unit
  | .proper => .ok ()
  | .noResponders => .error .noResponders
  | .raw text => Response.readText Response.stored text

end StreamBridge.Nats
