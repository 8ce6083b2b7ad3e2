import EvmClient.Json.Value

/-
Records in JSON.

   A record with declared fields is read from an object, where unknown names are skipped and a repeated
   declared name is refused, or from an array, which gives the fields in their declared order. What an
   absent field means is said field by field: `required`, `orDefault`, `optional`. -/
namespace EvmClient.Json

/-- The values that a JSON value gives for the fields of a record. -/
structure Fields where
  found : List (String × Json)
  positional : Bool

def fields? (names : List String) : Json → Option Fields
  | .object members =>
    let declared := members.filter fun m => names.contains m.1
    if (declared.map (·.1)).Nodup then some ⟨declared, false⟩ else none
  | .array elements => if elements.length ≤ names.length then some ⟨names.zip elements, true⟩ else none
  | _ => none

namespace Fields
variable {α : Type}

def required (f : Fields) (name : String) (read : Json → Option α) : Option α :=
  match f.found.lookup name with
  | some v => read v
  | none => none

/-- An absent field has the default value. -/
def orDefault (f : Fields) (name : String) (default : α) (read : Json → Option α) : Option α :=
  match f.found.lookup name with
  | some v => read v
  | none => some default

/-- An absent field, like `null`, means that there is no value; an array must reach the field. -/
def optional (f : Fields) (name : String) (read : Json → Option α) : Option (Option α) :=
  match f.found.lookup name with
  | some .null => some none
  | some v => (read v).map some
  | none => if f.positional then none else some none

/-- As `optional`, but an array may end before the field. -/
def optionalOrAbsent (f : Fields) (name : String) (read : Json → Option α) : Option (Option α) :=
  match f.found.lookup name with
  | some .null => some none
  | some v => (read v).map some
  | none => some none

end Fields

/-! ## Plain values -/

def asString? : Json → Option String
  | .string s => some s
  | _ => none

def asBool? : Json → Option Bool
  | .bool b => some b
  | _ => none

/-- An integer from zero to below the bound. -/
def asNat? (bound : Nat) : Json → Option Nat
  | .number (.integer i) => if 0 ≤ i ∧ i < bound then some i.toNat else none
  | _ => none

def asList? {α : Type} (read : Json → Option α) : Json → Option (List α)
  | .array elements => elements.mapM read
  | _ => none

/-- A member that is left out where there is no value. -/
def memberIfSome {α : Type} (name : String) (write : α → Json) (v : Option α) : List (String × Json) :=
  match v with
  | some a => [(name, write a)]
  | none => []

/-- The value, or `null`. -/
def orNull {α : Type} (write : α → Json) : Option α → Json
  | some a => write a
  | none => .null

end EvmClient.Json
