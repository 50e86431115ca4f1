import StreamBridge.Settings.Value

/-! Places within settings: names and list positions, as in `connection.urls[1]`. -/

namespace StreamBridge

/-- A step from a value to a part of it. A negative index counts from the end. -/
inductive SettingStep where
  | child (name : String)
  | index (position : Int)
deriving DecidableEq, Repr

/-- A place: the steps that lead to it. -/
abbrev SettingPath := List SettingStep

namespace SettingPath

/-- Whether a character may stand in a name. -/
def isNameChar (letter : Char) : Bool :=
  letter.isAlphanum || letter == '_' || letter == '-' || letter == ' '

/-- Reads a name. -/
def readName (letters : List Char) : Option (String × List Char) :=
  let name := letters.takeWhile isNameChar
  if name.isEmpty then none else some (String.ofList name, letters.dropWhile isNameChar)

/-- Reads an index with its closing bracket; blanks may stand around the number. -/
def readIndex (letters : List Char) : Option (Int × List Char) := do
  let isBlank (letter : Char) : Bool := letter == ' ' || letter == '\t'
  let letters := letters.dropWhile isBlank
  let (sign, letters) := match letters with
    | '-' :: rest => (['-'], rest)
    | letters => ([], letters)
  let digits := letters.takeWhile Char.isDigit
  let position ← (Decimal.readSigned 64 (sign ++ digits)).toOption
  match (letters.dropWhile Char.isDigit).dropWhile isBlank with
  | ']' :: rest => if digits.isEmpty then none else some (position, rest)
  | _ => none

/-- Reads the steps after the first name. -/
def readSteps : Nat → List Char → Option SettingPath
  | _, [] => some []
  | 0, _ :: _ => none
  | fuel + 1, '.' :: rest => do
    let (name, rest) ← readName rest
    return .child name :: (← readSteps fuel rest)
  | fuel + 1, '[' :: rest => do
    let (position, rest) ← readIndex rest
    return .index position :: (← readSteps fuel rest)
  | _ + 1, _ :: _ => none

/-- Reads a whole path. -/
def read? (text : String) : Option SettingPath := do
  let (name, rest) ← readName text.toList
  return .child name :: (← readSteps rest.length rest)

/-- The path of a key: itself as a name where it cannot be read as a path. -/
def ofKey (key : String) : SettingPath := (read? key).getD [.child key]

/-- The written form of the steps after the first. -/
def stepText : SettingStep → String
  | .child name => "." ++ name
  | .index position => "[" ++ toString position ++ "]"

/-- The written form of a path. -/
def text : SettingPath → String
  | [] => ""
  | .child name :: rest => name ++ String.join (rest.map stepText)
  | steps => String.join (steps.map stepText)

end SettingPath

namespace Setting

/-- The index that a position means in a list. -/
def indexOf (position : Int) (length : Nat) : Nat :=
  if 0 ≤ position then position.toNat else length - position.natAbs

/-- A list with a value at an index, filled up with nulls where it is too short. -/
def setItem (index : Nat) (value : Setting) (items : List Setting) : List Setting :=
  (items ++ List.replicate (index + 1 - items.length) absent).set index value

/-- Sets a value at a place. What stands in the way becomes a table or a list; a table merges into
one that is there, unless it is an item of a list. -/
def place (value : Setting) : SettingPath → Setting → Setting
  | [], _ => value
  | .child name :: rest, target =>
    let name := Text.lowerCase name
    let old := target.entries.lookup name
    let new := if rest.isEmpty then value.onto old else place value rest (old.getD absent)
    .table (replace name new target.entries) target.tableOrigin
  | .index position :: rest, target =>
    let index := indexOf position target.items.length
    let old := target.items[index]?.getD absent
    .list (setItem index (place value rest old) target.items) target.listOrigin

/-- Sets the entries of a layer, whose keys are paths. -/
def addLayer (layer : List (String × Setting)) (settings : Setting) : Setting :=
  layer.foldl (fun settings (key, value) => place value (SettingPath.ofKey key) settings) settings

end Setting
end StreamBridge
