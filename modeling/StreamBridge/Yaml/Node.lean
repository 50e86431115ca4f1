import StreamBridge.Decimal.Binary

/-! The values of a YAML text, and the meaning of scalars: core schema words and numbers. -/

namespace StreamBridge.Yaml

/-- A value. A table keeps its entries in order; its keys are texts. What is `unfit` stands where a
text does not fit its tag, or where a node refers to one around it: it counts as null, but never as
a key. -/
inductive Node where
  | null
  | unfit
  | boolean (value : Bool)
  | integer (value : Int)
  | decimal (value : Float)
  | text (value : String)
  | list (items : List Node)
  | table (entries : List (String × Node))

/-- A key of a table: a text, or a number that counts as the text of its digits but is another key
than that text. -/
inductive Key where
  | text (value : String)
  | integer (value : Int)
deriving DecidableEq

/-- The text of a key. -/
def Key.name : Key → String
  | .text value => value
  | .integer value => toString value

/-- A node as a key. -/
def Node.asKey? : Node → Option Key
  | .text value => some (.text value)
  | .integer value => some (.integer value)
  | _ => none

/-- Pairs the nodes of a table: each key with the node behind it. An unfit node where a key is due
is passed over, so that what follows it moves up; a key with nothing behind it is dropped. No key
may come twice; of two keys of one name the later counts. `keys` are those taken so far, `due` the
one that waits for its value. -/
def pairs? (keys : List Key) (due : Option Node) : List Node → Option (List (String × Node))
  | [] => some []
  | node :: rest =>
    match due, node with
    | none, .unfit => pairs? keys none rest
    | none, _ => pairs? keys (some node) rest
    | some first, _ => do
      let key ← first.asKey?
      if keys.contains key then none
      let entries ← pairs? (key :: keys) none rest
      return if entries.any (·.1 == key.name) then entries else (key.name, node) :: entries

/-- The table of its keys and values in turn. -/
def Node.ofParts? (parts : List Node) : Option Node := (pairs? [] none parts).map .table

/-- A signed 64-bit integer, if the text is one. -/
def word? (letters : List Char) : Option Int := (Decimal.readSigned 64 letters).toOption

/-- The value of a digit in a base up to sixteen. -/
def baseDigit? (base : Nat) (letter : Char) : Option Nat :=
  let code := letter.toNat
  let digit :=
    if letter.isDigit then some (code - 0x30)
    else if 0x61 ≤ code && code ≤ 0x66 then some (code - 0x57)
    else if 0x41 ≤ code && code ≤ 0x46 then some (code - 0x37)
    else none
  digit.filter (· < base)

/-- A signed 64-bit integer written in a base. -/
def baseWord? (base : Nat) (letters : List Char) : Option Int :=
  let (negative, digits) := match letters with
    | '-' :: rest => (true, rest)
    | '+' :: rest => (false, rest)
    | rest => (false, rest)
  if digits.isEmpty then none
  else do
    let size ← digits.foldlM (fun total letter => do
      let digit ← baseDigit? base letter
      pure (total * base + digit)) 0
    if negative then if size ≤ Nat.pow 2 63 then some (-(size : Int)) else none
    else if size < Nat.pow 2 63 then some size else none

/-- The words for numbers that are not finite. They are read as numbers but have no value here. -/
def specialNumbers : List String :=
  [".inf", ".Inf", ".INF", "+.inf", "+.Inf", "+.INF", "-.inf", "-.Inf", "-.INF", ".nan", ".NAN"]

/-- A number with a fraction or an exponent; none inside where the text has no value here. -/
def decimal? (text : String) : Option (Option Node) :=
  if specialNumbers.contains text then some none
  else (Decimal.readFloat? text.toList).map fun value => some (.decimal value)

/-- The integer that a text with a mark for its base, or a plus sign, stands for. -/
def marked? : List Char → Option Int
  | '0' :: 'x' :: rest => baseWord? 16 rest
  | '0' :: 'o' :: rest => baseWord? 8 rest
  | '+' :: rest => word? rest
  | _ => none

/-- The value of a plain scalar; none for a number without value. -/
def plain? (text : String) : Option Node :=
  match marked? text.toList with
  | some value => some (.integer value)
  | none =>
    if text == "~" || text == "null" then some .null
    else if text == "true" then some (.boolean true)
    else if text == "false" then some (.boolean false)
    else match word? text.toList with
      | some value => some (.integer value)
      | none =>
        match decimal? text with
        | some number => number
        | none => some (.text text)

/-- A tag: the name behind the core schema's mark, or any other. -/
inductive Tag where
  | core (name : String)
  | other
deriving DecidableEq

/-- The value of a plain scalar under a tag. -/
def tagged? (tag : Tag) (text : String) : Option Node :=
  match tag with
  | .core "bool" =>
    some (if text == "true" then .boolean true
      else if text == "false" then .boolean false else .unfit)
  | .core "int" => some ((word? text.toList).elim .unfit .integer)
  | .core "float" => (decimal? text).getD (some .unfit)
  | .core "null" => some (if text == "~" || text == "null" then .null else .unfit)
  | _ => some (.text text)

/-- The value of a plain scalar that may have a tag. -/
def scalar? (tag : Option Tag) (text : String) : Option Node :=
  match tag with
  | none => plain? text
  | some tag => tagged? tag text

end StreamBridge.Yaml
