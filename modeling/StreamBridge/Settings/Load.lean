import StreamBridge.Settings.Decode
import StreamBridge.Text.Split
import StreamBridge.Yaml.Read

/-! Loading settings from their layers: the default file, a file that is named, a file that the
environment names, and variables of the environment. Each layer comes before those named first. -/

namespace StreamBridge

/-- What settings are loaded from: the files of the working directory, and the variables of the
environment. -/
structure Surroundings where
  files : List (String × Bytes)
  environment : List (String × String)

namespace Surroundings

/-- The file that is read if it is there. -/
def defaultFile : String := "jetstream-bridge.yaml"

/-- The variable that names a further file. -/
def fileVariable : String := "JETSTREAM_BRIDGE_CONFIG"

/-- What the names of variables with settings start with, before two underscores. -/
def variablePrefix : String := "JETSTREAM_BRIDGE"

/-- The variable that filters the log. -/
def logVariable : String := "JETSTREAM_BRIDGE_LOG"

/-- What separates names, and stands for the point of a path. -/
def separator : List Char := ['_', '_']

/-- The layer of the variables. -/
def variableOrigin : String := "the environment"

/-- The parts of a relative path that name something; none for a path that leaves the directory. -/
def pathParts (name : String) : Option (List String) :=
  if name.startsWith "/" then none
  else
    let parts := (Text.pieces '/' name).filter fun part => part != "" && part != "."
    if parts.contains ".." then none else some parts

/-- Whether a path names a directory by its ending. -/
def endsAsDirectory (name : String) : Bool := name.endsWith "/" || name.endsWith "/."

/-- The names that a file is looked for by: its own, and that with an ending for YAML. -/
def candidates (name : String) : List String := [name, name ++ ".yaml", name ++ ".yml"]

/-- The names that stand for files of the working directory. A path may make detours through it; a
path to the directory itself names no file. -/
def lookedFor (name : String) : List String :=
  match pathParts name with
  | some [] => []
  | some parts =>
    (candidates (String.intercalate "/" parts)).drop (if endsAsDirectory name then 1 else 0)
  | none => candidates name

/-- Finds a file by the first of its names that is there. -/
def findFile (place : Surroundings) (name : String) : Option (String × Bytes) :=
  (lookedFor name).findSome? fun candidate =>
    (place.files.lookup candidate).map fun content => (candidate, content)

/-- The top-level settings of a YAML text. -/
def fileLayer (origin : String) (content : String) : Except LoadError (List (String × Setting)) :=
  match Yaml.read content with
  | some none => .ok []
  | some (some (.table entries)) => .ok (Setting.ofEntries origin entries)
  | _ => .error .malformed

/-- The layer of a file that has to be there. -/
def requiredFile (place : Surroundings) (name : String) :
    Except LoadError (List (String × Setting)) :=
  match place.findFile name with
  | none => .error (.missingFile name)
  | some (found, content) =>
    match Utf8.decode content with
    | .error _ => .error .notText
    | .ok content => fileLayer found content

/-- The layer of a file that may be missing, or unreadable. -/
def optionalFile (place : Surroundings) (name : String) :
    Except LoadError (List (String × Setting)) :=
  match place.requiredFile name with
  | .error (.missingFile _) | .error .notText => .ok []
  | result => result

/-- Replaces each separator by a point. -/
def pointed : List Char → List Char
  | '_' :: '_' :: rest => '.' :: pointed rest
  | letter :: rest => letter :: pointed rest
  | [] => []

/-- The key that a variable sets, if it is one with settings. -/
def variableKey (name : String) : Option String :=
  let start := (Text.lowerCase variablePrefix).toList ++ separator
  let name := (Text.lowerCase name).toList
  if start.isPrefixOf name then some (String.ofList (pointed (name.drop start.length))) else none

/-- The key of the one setting that is a list of texts with commas between them. -/
def listKey : String := "connection.urls"

/-- The truth value that a text stands for, in any case. -/
def truth? (text : String) : Option Bool :=
  match Text.lowerCase text with
  | "true" => some true
  | "false" => some false
  | _ => none

/-- The value of a variable: the first of a truth value, an integer and a number that it can be
read as, else the text. -/
def variableSetting (key value : String) : Setting :=
  let origin := some variableOrigin
  match truth? value with
  | some truth => .scalar (.boolean truth) origin
  | none =>
    match Decimal.readSigned 64 value.toList with
    | .ok number => .scalar (.integer number) origin
    | .error _ =>
      match Decimal.readFloat? value.toList with
      | some number => .scalar (.decimal number) origin
      | none =>
        if key == listKey then
          .list ((Text.pieces ',' value).map fun part => .scalar (.text part) origin) origin
        else .scalar (.text value) origin

/-- The layer of the variables. -/
def variableLayer (place : Surroundings) : List (String × Setting) :=
  place.environment.filterMap fun (name, value) =>
    (variableKey name).map fun key => (key, variableSetting key value)

/-- All layers, the weakest first. -/
def layers (place : Surroundings) (path : Option String) :
    Except LoadError (List (List (String × Setting))) := do
  let default ← place.optionalFile defaultFile
  let named ← path.elim (.ok []) place.requiredFile
  let further ← (place.environment.lookup fileVariable).elim (.ok []) place.requiredFile
  return [default, named, further, place.variableLayer]

end Surroundings

/-- Loads settings; `durable` names the durable consumer where a source leaves it out. -/
def Settings.load (durable : String) (place : Surroundings) (path : Option String) :
    Except LoadError Settings := do
  let layers ← place.layers path
  Settings.ofSetting durable
    (layers.foldl (fun settings layer => Setting.addLayer layer settings) Setting.emptyTable)

end StreamBridge
