import StreamBridge.Publishing
import StreamBridge.Broker.Basic

/-! Publishing with retries. Only a subject that no stream listens to yet is worth another attempt;
any other answer ends the call. -/

namespace StreamBridge

/-- Why an attempt to publish failed. -/
inductive PublishFault where
  /-- No stream listens to the subject. -/
  | noStream
  | wrongLastMessage
  | wrongLastSequence
  | timedOut
  | brokenPipe
  | other
deriving DecidableEq, Repr

/-- How a fault is named. -/
def PublishFault.label : PublishFault → String
  | .noStream => "no stream found for given subject"
  | .wrongLastMessage => "wrong last message id"
  | .wrongLastSequence => "wrong last sequence"
  | .timedOut => "timed out: didn't receive ack in time"
  | .brokenPipe => "broken pipe"
  | .other => "publish failed"

/-- A failed attempt, with what is known about it. -/
structure PublishFailure where
  fault : PublishFault
  detail : Option String
deriving DecidableEq, Repr

namespace PublishFailure

/-- The report of a failed attempt. -/
def message (failure : PublishFailure) : String :=
  failure.fault.label ++ failure.detail.elim "" (": " ++ ·)

/-- Whether another attempt may succeed. -/
def isRetryable (failure : PublishFailure) : Bool := failure.fault == .noStream

/-- The failure of the whole call. -/
def toBrokerError (failure : PublishFailure) : BrokerError := .failed .publish failure.message

end PublishFailure

namespace Retry

/-- The wait before another attempt where none is set. -/
def defaultWait : Duration := .ofMilliseconds 250

/-- How many attempts may follow the first where no count is set. -/
def defaultAttempts : Nat := 2

variable {σ : Type}

/-- Makes an attempt, and up to `retries` more while a failure is retryable; `pause` lets time pass
before each of those. -/
def publish (pause : σ → σ) (attempt : Request σ PublishFailure Unit) :
    Nat → Request σ BrokerError Unit
  | 0 => Request.mapError PublishFailure.toBrokerError attempt
  | retries + 1 => fun state =>
    match attempt.make state with
    | (.ok (), after) => (.ok (), after)
    | (.error failure, after) =>
      if failure.isRetryable then publish pause attempt retries (pause after)
      else (.error failure.toBrokerError, after)

end Retry
end StreamBridge
