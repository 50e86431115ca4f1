import StreamBridge.Command.Run
import StreamBridge.Nats.Client
import StreamBridge.Settings.Durable

/-! The program. It takes its settings from the working directory and the environment. It has no
line to a network of its own: to it, every address is one where nobody listens. -/

namespace StreamBridge.Program

/-- The content of a file, if it can be read. -/
def readFile? (name : String) : IO (Option Bytes) := do
  try
    let content ← IO.FS.readBinFile name
    return some content.toList
  catch _ => return none

/-- The variables in a list of assignments that end with a zero byte each. -/
def environment (listing : Bytes) : List (String × String) :=
  let assignments := (Utf8.decodeLossy listing).splitOn "\x00"
  assignments.filterMap fun assignment =>
    match assignment.splitOn "=" with
    | name :: value :: more => some (name, String.intercalate "=" (value :: more))
    | _ => none

/-- The files that the settings may come from, as far as they are there. -/
def readFiles (names : List String) : IO (List (String × Bytes)) := do
  let found ← names.mapM fun name => do
    return (← readFile? name).map fun content => (name, content)
  return found.filterMap id

/-- What the settings may come from. -/
def surroundings (arguments : List String) : IO Surroundings := do
  let environment := environment ((← readFile? "/proc/self/environ").getD [])
  let names := [some Surroundings.defaultFile, Command.settingsPath? arguments,
    environment.lookup Surroundings.fileVariable].filterMap id
  return ⟨← readFiles (names.flatMap Surroundings.lookedFor), environment⟩

end StreamBridge.Program

open StreamBridge in
/-- Runs the command, prints what it ends with, and gives its status. -/
def main (arguments : List String) : IO UInt32 := do
  let durable := Durable.name (← IO.rand 0 (Nat.pow 2 122 - 1))
  let place ← Program.surroundings arguments
  let schedule : List (Happening Nats.Client Nats.Receipt) := [.inputEnds, .turns]
  let (exit, _) := Command.run durable .epoch arguments place schedule (.ofServer (.fresh []))
  match exit with
  | none => return 0
  | some exit =>
    (← IO.getStdout).write (ByteArray.mk exit.output.toArray)
    (← IO.getStderr).putStr exit.complaint
    return exit.status.toUInt32
