import StreamBridge.Yaml.Scan

/-! Reading the one document of a YAML text from its tokens. -/

namespace StreamBridge.Yaml

/-- What a reader carries: the tokens ahead, what the declared handles of tags stand for, the
numbers of named nodes by their names, and the nodes that are complete by their numbers. -/
structure Reading where
  tokens : List Token
  handles : List (String × String)
  names : List (String × Nat)
  nodes : List (Nat × Node)

/-- A step of reading; it fails on tokens that make no document. -/
abbrev Parse (α : Type) := StateT Reading Option α

/-- The next token. -/
def peek : Parse (Option Token) := do return (← get).tokens.head?

/-- Passes the next token. -/
def skip : Parse Unit := modify fun reading => { reading with tokens := reading.tokens.tail }

/-- What stands before a node: a number under which it is named, and a tag. -/
structure Properties where
  number : Option Nat
  tag : Option Tag

/-- Gives the coming node a name. A name given again refers to the later node. -/
def naming (name : String) : Parse Nat := do
  let reading ← get
  let number := reading.names.length
  set { reading with names := (name, number) :: reading.names }
  return number

/-- Keeps a node that is complete under its number. -/
def complete (properties : Properties) (node : Node) : Parse Node := do
  match properties.number with
  | none => pure ()
  | some number => modify fun reading => { reading with nodes := (number, node) :: reading.nodes }
  return node

/-- The node of a name. It has to be named before; one that is not complete yet is unfit. -/
def named (name : String) : Parse Node := do
  let reading ← get
  let number ← liftM (reading.names.lookup name)
  return (reading.nodes.lookup number).getD .unfit

/-- What the tags of the core schema start with. -/
def coreAddress : String := "tag:yaml.org,2002:"

/-- The tag of a suffix behind an address. -/
def tagOf (address suffix : String) : Tag :=
  if address == coreAddress then .core suffix else .other

/-- The tag of a suffix behind a handle. A closed handle has to be declared; two marks stand for the
core schema unless they are. -/
def resolve (handle suffix : String) : Parse Tag := do
  match (← get).handles.lookup handle with
  | some address => return tagOf address suffix
  | none =>
    if handle == "!!" then return tagOf coreAddress suffix
    else if isClosedHandle handle.toList then failure
    else return tagOf handle suffix

/-- Reads a name and a tag before a node, in either order. -/
def properties : Parse Properties := do
  match ← peek with
  | some (.anchor name) =>
    skip
    let number ← naming name
    match ← peek with
    | some (.tag handle suffix) =>
      skip
      return ⟨some number, some (← resolve handle suffix)⟩
    | _ => return ⟨some number, none⟩
  | some (.tag handle suffix) =>
    skip
    let tag ← resolve handle suffix
    match ← peek with
    | some (.anchor name) =>
      skip
      return ⟨some (← naming name), some tag⟩
    | _ => return ⟨none, some tag⟩
  | _ => return ⟨none, none⟩

/-- Whether nothing stands between the mark of an item and the token ahead. -/
def endsItem : Option Token → Bool
  | some .item | some .blockEnd => true
  | _ => false

/-- Whether nothing stands between the mark of a key or value and the token ahead. -/
def endsEntry : Option Token → Bool
  | some .key | some .value | some .blockEnd => true
  | _ => false

/-- Whether nothing stands between the start of a key in braces and the token ahead. -/
def endsBracedKey : Option Token → Bool
  | some .value | some .comma | some .closeTable => true
  | _ => false

/-- Whether nothing stands between a colon in braces and the token ahead. -/
def endsBracedValue : Option Token → Bool
  | some .comma | some .closeTable => true
  | _ => false

/-- Whether nothing stands between a colon in brackets and the token ahead. -/
def endsPair : Option Token → Bool
  | some .comma | some .closeList => true
  | _ => false

mutual

/-- Reads a node. `inBlock` says that it may be a block, `hangs` that it may be a list whose marks
stand in the column of the table around it. -/
def readNode : Nat → Bool → Bool → Parse Node
  | 0, _, _ => failure
  | fuel + 1, inBlock, hangs => do
    match ← peek with
    | some (.reference name) =>
      skip
      named name
    | _ =>
      let properties ← properties
      complete properties (← readContent fuel inBlock hangs properties)

/-- Reads a node behind its properties, which may be all there is of it. -/
def readContent : Nat → Bool → Bool → Properties → Parse Node
  | 0, _, _, _ => failure
  | fuel + 1, inBlock, hangs, properties => do
    match ← peek, inBlock, hangs with
    | some .item, _, true => return .list (← readHanging fuel [])
    | some (.plain text), _, _ =>
      skip
      liftM (scalar? properties.tag text)
    | some (.quoted text), _, _ =>
      skip
      return .text text
    | some .openList, _, _ =>
      skip
      return .list (← readBrackets fuel true [])
    | some .openTable, _, _ =>
      skip
      liftM (Node.ofParts? (← readBraces fuel true []))
    | some .listStart, true, _ =>
      skip
      return .list (← readItems fuel [])
    | some .tableStart, true, _ =>
      skip
      liftM (Node.ofParts? (← readEntries fuel []))
    | _, _, _ =>
      if properties.number.isSome || properties.tag.isSome then
        liftM (scalar? properties.tag "")
      else failure

/-- Reads the items of a list up to the end of its block; `taken` is reversed. -/
def readItems : Nat → List Node → Parse (List Node)
  | 0, _ => failure
  | fuel + 1, taken => do
    match ← peek with
    | some .blockEnd =>
      skip
      return taken.reverse
    | some .item =>
      skip
      let node ← if endsItem (← peek) then pure Node.null else readNode fuel true false
      readItems fuel (node :: taken)
    | _ => failure

/-- Reads the items of a list that has no block of its own. -/
def readHanging : Nat → List Node → Parse (List Node)
  | 0, _ => failure
  | fuel + 1, taken => do
    match ← peek with
    | some .item =>
      skip
      let next ← peek
      let node ←
        if endsItem next || endsEntry next then pure Node.null else readNode fuel true false
      readHanging fuel (node :: taken)
    | _ => return taken.reverse

/-- Reads the keys and values of a table up to the end of its block. -/
def readEntries : Nat → List Node → Parse (List Node)
  | 0, _ => failure
  | fuel + 1, taken => do
    match ← peek with
    | some .blockEnd =>
      skip
      return taken.reverse
    | some .key =>
      skip
      let key ← if endsEntry (← peek) then pure Node.null else readNode fuel true true
      let value ← readEntryValue fuel
      readEntries fuel (value :: key :: taken)
    | some .value =>
      let value ← readEntryValue fuel
      readEntries fuel (value :: .null :: taken)
    | _ => failure

/-- Reads the value of an entry, if there is one. -/
def readEntryValue : Nat → Parse Node
  | 0 => failure
  | fuel + 1 => do
    match ← peek with
    | some .value =>
      skip
      if endsEntry (← peek) then return .null else readNode fuel true true
    | _ => return .null

/-- Reads the keys and values of a table up to its closing brace. -/
def readBraces : Nat → Bool → List Node → Parse (List Node)
  | 0, _, _ => failure
  | fuel + 1, first, taken => do
    if (← peek) == some .closeTable then
      skip
      return taken.reverse
    if !first then
      if (← peek) != some .comma then failure
      skip
    match ← peek with
    | some .closeTable =>
      skip
      return taken.reverse
    | some .key =>
      skip
      let key ← if endsBracedKey (← peek) then pure Node.null else readNode fuel false false
      let value ← readBracedValue fuel
      readBraces fuel false (value :: key :: taken)
    | some .value =>
      let value ← readBracedValue fuel
      readBraces fuel false (value :: .null :: taken)
    | _ =>
      let key ← readNode fuel false false
      readBraces fuel false (.null :: key :: taken)

/-- Reads the value of a key in braces, if there is one. -/
def readBracedValue : Nat → Parse Node
  | 0 => failure
  | fuel + 1 => do
    match ← peek with
    | some .value =>
      skip
      if endsBracedValue (← peek) then return .null else readNode fuel false false
    | _ => return .null

/-- Reads the items of a list up to its closing bracket. -/
def readBrackets : Nat → Bool → List Node → Parse (List Node)
  | 0, _, _ => failure
  | fuel + 1, first, taken => do
    if (← peek) == some .closeList then
      skip
      return taken.reverse
    if !first then
      if (← peek) != some .comma then failure
      skip
    match ← peek with
    | some .closeList =>
      skip
      return taken.reverse
    | some .key =>
      skip
      readBrackets fuel false ((← readPair fuel) :: taken)
    | _ => readBrackets fuel false ((← readNode fuel false false) :: taken)

/-- Reads a key with its value that is an item of a list in brackets. A token that shows the key to
be absent is passed. -/
def readPair : Nat → Parse Node
  | 0 => failure
  | fuel + 1 => do
    let next ← peek
    let key ←
      if next == some .value || endsPair next then do
        skip
        pure Node.null
      else readNode fuel false false
    let value ← readPairValue fuel
    liftM (Node.ofParts? [key, value])

/-- Reads the value of a key in brackets, if there is one. -/
def readPairValue : Nat → Parse Node
  | 0 => failure
  | fuel + 1 => do
    match ← peek with
    | some .value =>
      skip
      if endsPair (← peek) then return .null else readNode fuel false false
    | _ => return .null

end

/-- Passes marks that end a document. -/
def skipEnds : Nat → Parse Unit
  | 0 => pure ()
  | fuel + 1 => do
    if (← peek) == some .documentEnd then
      skip
      skipEnds fuel

/-- Reads directives. Only the last one counts; the version may be given once. -/
def readDirectives (versioned : Bool) : Nat → Parse Unit
  | 0 => pure ()
  | fuel + 1 => do
    match ← peek with
    | some .version =>
      if versioned then failure
      skip
      modify fun reading => { reading with handles := [] }
      readDirectives true fuel
    | some (.handle name address) =>
      skip
      modify fun reading => { reading with handles := [(name, address)] }
      readDirectives versioned fuel
    | _ => pure ()

/-- Whether a document begins with a directive or a mark. -/
def opensDocument : Option Token → Bool
  | some .version | some (.handle _ _) | some .documentStart => true
  | _ => false

/-- Whether a document holds nothing behind its mark. -/
def endsDocument : Option Token → Bool
  | some .documentEnd | none => true
  | next => opensDocument next

/-- Reads the one document; tokens without a document give none. -/
def readDocument (fuel : Nat) : Parse (Option Node) := do
  skipEnds fuel
  let next ← peek
  if next.isNone then return none
  let node ←
    if opensDocument next then do
      readDirectives false fuel
      if (← peek) != some .documentStart then failure
      skip
      if endsDocument (← peek) then pure Node.null else readNode fuel true false
    else readNode fuel true false
  skipEnds fuel
  if (← peek).isNone then return some node else failure

/-- Reads a text of at most one document. -/
def read (text : String) : Option (Option Node) := do
  let tokens ← Token.list? text
  let (document, _) ← (readDocument (4 * tokens.length + 4)).run ⟨tokens, [], [], []⟩
  return document

end StreamBridge.Yaml
