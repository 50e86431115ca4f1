import StreamBridge.Json.Value

/-! Ways to take a value as something else. A value fits, or it does not: nothing is said about why.
-/

namespace StreamBridge.Json

/-- What a value is taken as, if it fits. -/
abbrev Fit (α : Type) := Value → Option α

namespace Fit

/-- Takes a text. -/
def text : Fit String
  | .text value => some value
  | _ => none

/-- Takes a truth value. -/
def truth : Fit Bool
  | .boolean value => some value
  | _ => none

/-- Takes an integer between zero and `limit`. -/
def natural (limit : Nat) : Fit Nat
  | .natural value => if value ≤ limit then some value else none
  | _ => none

/-- Takes an unsigned 64-bit integer. -/
def word : Fit Nat := natural Decimal.maxWord

/-- Takes a signed integer of `bits` bits. -/
def signed (bits : Nat) : Fit Int
  | .natural value => if value < Nat.pow 2 (bits - 1) then some value else none
  | .negative value => if value ≤ Nat.pow 2 (bits - 1) then some (-(value : Int)) else none
  | _ => none

/-- Takes null, or what fits otherwise. -/
def optional {α : Type} (fit : Fit α) : Fit (Option α)
  | .null => some none
  | value => (fit value).map some

/-- Takes a list. -/
def listOf {α : Type} (fit : Fit α) : Fit (List α)
  | .list items => items.mapM fit
  | _ => none

/-- Takes an object with members of any names. -/
def entries {α : Type} (fit : Fit α) : Fit (List (String × α))
  | .object members => members.mapM fun (name, value) => (fit value).map fun value => (name, value)
  | _ => none

/-- Takes what fits and meets a condition. -/
def such {α : Type} (fit : Fit α) (holds : α → Bool) : Fit α := fun value =>
  (fit value).filter holds

/-- Takes one of some names, which may also stand over null. -/
def nameOf (names : List String) : Fit String
  | .text name | .object [(name, .null)] => if names.contains name then some name else none
  | _ => none

/-- When a part of a record may be missing: never, in objects only, or always. -/
inductive Absence where
  | refused
  | inObjects
  | allowed
deriving DecidableEq, Repr

/-- A part of a record, and how its value is taken into the record. -/
structure Part (σ : Type) where
  name : String
  absence : Absence
  take : σ → Fit σ

namespace Part

variable {σ α : Type}

/-- A part that is kept. -/
def keep (name : String) (absence : Absence) (fit : Fit α) (store : σ → α → σ) : Part σ :=
  ⟨name, absence, fun draft value => (fit value).map (store draft)⟩

/-- A part that only has to fit. -/
def check (name : String) (absence : Absence) (fit : Fit α) : Part σ :=
  keep name absence fit fun draft _ => draft

/-- A part that has to be there. -/
def required (name : String) (fit : Fit α) : Part σ := check name .refused fit

/-- A part that may be null, and missing from objects. -/
def nullable (name : String) (fit : Fit α) : Part σ := check name .inObjects (Fit.optional fit)

/-- A part that may be missing. -/
def defaulted (name : String) (fit : Fit α) : Part σ := check name .allowed fit

/-- A part that may be null or missing. -/
def either (name : String) (fit : Fit α) : Part σ := check name .allowed (Fit.optional fit)

/-- Takes a part from the members of an object, which has it once at most. -/
def takeFrom (members : List (String × Value)) (draft : σ) (part : Part σ) : Option σ :=
  match members.filter (·.1 == part.name) with
  | [] => if part.absence = .refused then none else some draft
  | [(_, value)] => part.take draft value
  | _ => none

/-- Takes parts from values in the same order, of which there may not be more. -/
def takeInOrder : List (Part σ) → List Value → σ → Option σ
  | [], [], draft => some draft
  | [], _ :: _, _ => none
  | part :: parts, [], draft =>
    if part.absence = .allowed then takeInOrder parts [] draft else none
  | part :: parts, value :: values, draft => do
    takeInOrder parts values (← part.take draft value)

end Part

/-- Takes an object with the given parts. Other members do not matter. -/
def object {σ : Type} (parts : List (Part σ)) (start : σ) : Fit σ
  | .object members => parts.foldlM (Part.takeFrom members) start
  | _ => none

/-- Takes a record: an object with the given parts, or a list of their values. -/
def record {σ : Type} (parts : List (Part σ)) (start : σ) : Fit σ
  | .list values => Part.takeInOrder parts values start
  | value => object parts start value

end Fit
end StreamBridge.Json
