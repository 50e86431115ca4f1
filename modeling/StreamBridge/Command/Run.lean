import StreamBridge.Command.Outline

/-! The command line: a mode, and where to find the settings. The settings are loaded and checked
before the mode is looked at. -/

namespace StreamBridge

/-- What a command ends with. -/
structure Exit where
  status : Nat
  output : Bytes
  complaint : String
deriving DecidableEq

namespace Command

/-- How the command is used. -/
def usage : String := "usage: jetstream-bridge <source|destination> [config.yaml]\n"

/-- The exit of a command that an error ended. -/
def failure (output : Bytes) (outline : String) : Exit := ⟨1, output, "Error: " ++ outline ++ "\n"⟩

/-- The exit of a run, if it has ended. -/
def exit {β : Type} (run : Run β) : Option Exit :=
  run.result.map fun
    | .ok () => ⟨0, run.output, ""⟩
    | .error error => failure run.output (Outline.runError error)

/-- The mode that is asked for. -/
def mode (arguments : List String) : String := arguments.head?.getD ""

/-- The file that is named for the settings. -/
def settingsPath? (arguments : List String) : Option String := arguments[1]?

/-- Loads and checks settings. -/
def settings (durable : String) (arguments : List String) (place : Surroundings) :
    Except String Settings := do
  let settings ← (Settings.load durable place (settingsPath? arguments)).mapError Outline.loadError
  settings.check.mapError fun fault => Outline.runError (.settings fault)
  return settings

/-- Runs the command through a schedule; without an exit it still works when the schedule ends. -/
def run {β ρ : Type} [Broker β ρ] (durable : String) (clock : Clock) (arguments : List String)
    (place : Surroundings) (schedule : List (Happening β ρ)) (broker : β) : Option Exit × β :=
  match settings durable arguments place with
  | .error outline => (some (failure [] outline), broker)
  | .ok settings =>
    match mode arguments with
    | "source" =>
      let run := Run.source clock settings schedule broker
      (exit run, run.broker)
    | "destination" =>
      let run := Run.destination settings schedule broker
      (exit run, run.broker)
    | _ => (some ⟨2, [], usage⟩, broker)

end Command
end StreamBridge
