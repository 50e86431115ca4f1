import StreamBridge.Script
import StreamBridge.Publishing.Retry

/-! Publishing against a script: the outcome of each attempt is laid down, and a clock shows when
each was made. -/

namespace StreamBridge

/-- A scripted outcome of attempts, on a clock of its own. `attempts` holds the moments at which
attempts were made. -/
structure Rehearsal where
  script : List (Except PublishFailure Unit)
  clock : Duration
  attempts : List Duration

namespace Rehearsal

/-- A rehearsal before the first attempt. -/
def start (script : List (Except PublishFailure Unit)) : Rehearsal := ⟨script, ⟨0⟩, []⟩

/-- Makes an attempt; an empty script lets all succeed. -/
def attempt : Request Rehearsal PublishFailure Unit := fun rehearsal =>
  let (outcome, script) := Script.next rehearsal.script
  (outcome.getD (.ok ()),
    { rehearsal with script := script, attempts := rehearsal.attempts ++ [rehearsal.clock] })

/-- Lets time pass. -/
def pause (wait : Duration) (rehearsal : Rehearsal) : Rehearsal :=
  { rehearsal with clock := rehearsal.clock + wait }

/-- Publishes with retries. -/
def publish (wait : Duration) (retries : Nat) : Request Rehearsal BrokerError Unit :=
  Retry.publish (pause wait) attempt retries

end Rehearsal
end StreamBridge
