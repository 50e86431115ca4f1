import StreamBridge.Yaml.Node
import StreamBridge.Decimal.Shortest
import StreamBridge.Text.LowerCase
import StreamBridge.Text.Quoted

/-! Values of settings before they are read as the type of their field, and the merging of layers.

A value remembers which layer it comes from. Tables merge key by key, without regard to case;
anything else replaces what was there. -/

namespace StreamBridge

/-- A value that is neither a list nor a table. -/
inductive Scalar where
  | null
  | boolean (value : Bool)
  | integer (value : Int)
  | decimal (value : Float)
  | text (value : String)

/-- A value with the layer it comes from; a value made by merging comes from none. -/
inductive Setting where
  | scalar (value : Scalar) (origin : Option String)
  | list (items : List Setting) (origin : Option String)
  | table (entries : List (String × Setting)) (origin : Option String)

namespace Setting

instance : Inhabited Setting := ⟨.scalar .null none⟩

/-- The value where nothing is set. -/
def absent : Setting := .scalar .null none

/-- A table without entries. -/
def emptyTable : Setting := .table [] none

/-- The layer that a value comes from. -/
def origin : Setting → Option String
  | .scalar _ origin | .list _ origin | .table _ origin => origin

/-- Replaces the value under a key, or adds one at the end. -/
def replace (key : String) (value : Setting) : List (String × Setting) → List (String × Setting)
  | [] => [(key, value)]
  | (name, old) :: rest =>
    if name == key then (key, value) :: rest else (name, old) :: replace key value rest

/-- The entries of a table; another value counts as a new table. -/
def entries : Setting → List (String × Setting)
  | .table entries _ => entries
  | .scalar _ _ | .list _ _ => []

/-- The items of a list; another value counts as a new list. -/
def items : Setting → List Setting
  | .list items _ => items
  | .scalar _ _ | .table _ _ => []

/-- The layer of a table that is kept. -/
def tableOrigin : Setting → Option String
  | .table _ origin => origin
  | .scalar _ _ | .list _ _ => none

/-- The layer of a list that is kept. -/
def listOrigin : Setting → Option String
  | .list _ origin => origin
  | .scalar _ _ | .table _ _ => none

mutual

/-- A value set where `old` stood. -/
def onto : Setting → Option Setting → Setting
  | .table entries _, old => putAll entries (old.getD emptyTable)
  | .scalar value origin, _ => .scalar value origin
  | .list items origin, _ => .list items origin

/-- Sets each of the entries in a table. -/
def putAll : List (String × Setting) → Setting → Setting
  | [], target => target
  | (key, value) :: rest, target =>
    let name := Text.lowerCase key
    putAll rest (.table
      (replace name (value.onto (target.entries.lookup name)) target.entries) target.tableOrigin)

end

mutual

/-- The settings of a layer that is written as YAML. -/
def ofNode (origin : String) : Yaml.Node → Setting
  | .null | .unfit => .scalar .null origin
  | .boolean value => .scalar (.boolean value) origin
  | .integer value => .scalar (.integer value) origin
  | .decimal value => .scalar (.decimal value) origin
  | .text value => .scalar (.text value) origin
  | .list items => .list (ofItems origin items) origin
  | .table entries => .table (ofEntries origin entries) origin

/-- The settings of the items of a list. -/
def ofItems (origin : String) : List Yaml.Node → List Setting
  | [] => []
  | item :: rest => ofNode origin item :: ofItems origin rest

/-- The settings of the entries of a table. -/
def ofEntries (origin : String) : List (String × Yaml.Node) → List (String × Setting)
  | [] => []
  | (key, value) :: rest => (key, ofNode origin value) :: ofEntries origin rest

end

/-- How a number is named: always with a point. -/
def numberText (value : Float) : String :=
  let written := Decimal.plainText value
  if value.isFinite && !written.contains '.' then written ++ ".0" else written

/-- How a value is named in reports. -/
def describe : Setting → String
  | .scalar .null _ => "unit value"
  | .scalar (.boolean value) _ => "boolean `" ++ (if value then "true" else "false") ++ "`"
  | .scalar (.integer value) _ => "integer `" ++ toString value ++ "`"
  | .scalar (.decimal value) _ => "floating point `" ++ numberText value ++ "`"
  | .scalar (.text value) _ => "string " ++ Text.quoted value
  | .list _ _ => "sequence"
  | .table _ _ => "map"

end Setting
end StreamBridge
