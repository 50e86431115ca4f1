import StreamBridge.Json.Read

/-! Values of any kind, read from a JSON text before it is known what they should be. Every part of
them has to be well-formed. -/

namespace StreamBridge.Json

/-- A value. Members of an object may share a name. -/
inductive Value where
  | null
  | boolean (value : Bool)
  | natural (value : Nat)
  | negative (value : Nat)
  | decimal (value : Float)
  | text (value : String)
  | list (items : List Value)
  | object (members : List (String × Value))

namespace Value

/-- The value that a number is. -/
def ofNumber : Number → Value
  | .natural value => .natural value
  | .negative value => .negative value
  | .decimal value => .decimal value

/-- How many lists and objects may lie inside each other. -/
def maxDepth : Nat := 127

/-- Reads members until the object ends and adds them to the reversed list `taken`. -/
def readMembers (inner : Reader Value) :
    Nat → Bool → List (String × Value) → Reader (List (String × Value))
  | 0, _, _, rest => refuse .endInObject rest
  | fuel + 1, first, taken, rest => do
    let (more, rest) ← memberAhead first rest
    if more then
      let (name, rest) ← stringText rest
      let (value, rest) ← inner (← colon rest)
      readMembers inner fuel false ((name, value) :: taken) rest
    else .ok (taken.reverse, rest)

/-- Reads a list after its opening bracket. -/
def readList (inner : Reader Value) : Reader Value := fun rest => do
  let (values, rest) ← items inner (rest.length + 1) true [] rest
  return (.list values, ← closeList rest)

/-- Reads an object after its opening brace. -/
def readObject (inner : Reader Value) : Reader Value := fun rest => do
  let (members, rest) ← readMembers inner (rest.length + 1) true [] rest
  return (.object members, ← closeObject rest)

/-- Reads a value that is no list and no object. -/
def readScalar : Reader Value
  | [] => refuse .endInValue []
  | Ascii.letterN :: rest => return (.null, ← skipWord (Ascii.bytes "ull") rest)
  | Ascii.letterT :: rest => return (.boolean true, ← skipWord (Ascii.bytes "rue") rest)
  | Ascii.letterF :: rest => return (.boolean false, ← skipWord (Ascii.bytes "alse") rest)
  | Ascii.quote :: rest => do
    let (value, rest) ← stringText rest
    return (.text value, rest)
  | Ascii.minus :: rest => do
    let (value, rest) ← number true rest
    return (ofNumber value, rest)
  | rest =>
    if digitAhead rest then do
      let (value, rest) ← number false rest
      return (ofNumber value, rest)
    else refuseNext .wantValue rest

/-- Reads a value; `inner` reads what lists and objects hold, where there may be more of them. -/
def readWith (inner : Option (Reader Value)) : Reader Value := fun rest =>
  match skipBlank rest with
  | Ascii.openBracket :: more => inner.elim (refuse .tooDeep) readList more
  | Ascii.openBrace :: more => inner.elim (refuse .tooDeep) readObject more
  | rest => readScalar rest

/-- Reads a value with up to `depth` lists and objects inside each other. -/
def readWithin : Nat → Reader Value
  | 0 => readWith none
  | depth + 1 => readWith (some (readWithin depth))

/-- Reads a value. -/
def read : Reader Value := readWithin maxDepth

end Value
end StreamBridge.Json
