import EvmClient.Text.Decimal

/-
JSON values.

   An object keeps its members in the order of the text, repeated names included; `lastWins` gives the
   reading in which a repeated name stands for its last value. -/
namespace EvmClient

/-- A number as it was written: an integer of at most 64 bits, or any other number as
`mantissa * 10 ^ exponent`. -/
inductive Json.Number where
  | integer (value : Int)
  | real (mantissa exponent : Int)
deriving DecidableEq, Repr

/-- `broken` is a string, or an object with a name, in which an escape denotes no character: it can be
skipped, not read. -/
inductive Json where
  | null
  | bool (value : Bool)
  | number (value : Json.Number)
  | string (value : String)
  | broken
  | array (elements : List Json)
  | object (members : List (String × Json))
deriving Repr, Inhabited

namespace Json

/-- An integer that a JSON integer literal can hold. -/
def ofNat (n : Nat) : Json := .number (.integer n)

/-- The last value of each name, at the place of its first. -/
def lastValues (members : List (String × Json)) : List (String × Json) :=
  members.foldl (fun acc (name, v) =>
    if acc.any (·.1 == name) then acc.map fun m => if m.1 == name then (name, v) else m
    else acc ++ [(name, v)]) []

mutual

/-- Every object with one value for each name, the last one. -/
def lastWins : Json → Json
  | .array elements => .array (lastWinsElements elements)
  | .object members => .object (lastValues (lastWinsMembers members))
  | v => v

def lastWinsElements : List Json → List Json
  | [] => []
  | v :: rest => lastWins v :: lastWinsElements rest

def lastWinsMembers : List (String × Json) → List (String × Json)
  | [] => []
  | (name, v) :: rest => (name, lastWins v) :: lastWinsMembers rest

end

/-- Whether a number is within the range of doubles: whether its magnitude is below the middle between the
greatest one and the next power of two. -/
def Number.isFinite : Number → Bool
  | .integer _ => true
  | .real m e =>
    let places : Int := (Decimal.digits m.natAbs).length + e
    m == 0 || places < 309 || (places == 309 &&
      decide (m.natAbs * Nat.pow 10 e.toNat < (1 <<< 1024 - 1 <<< 970) * Nat.pow 10 (-e).toNat))

mutual

/-- Whether a value can be read as it stands: strings denote their characters, numbers are finite, and
arrays and objects are nested no deeper than given. -/
def isReadable : Nat → Json → Bool
  | _, .broken => false
  | _, .number n => n.isFinite
  | deep + 1, .array elements => areReadable deep elements
  | deep + 1, .object members => haveReadable deep members
  | 0, .array _ | 0, .object _ => false
  | _, _ => true

def areReadable : Nat → List Json → Bool
  | _, [] => true
  | deep, v :: rest => isReadable deep v && areReadable deep rest

def haveReadable : Nat → List (String × Json) → Bool
  | _, [] => true
  | deep, (_, v) :: rest => isReadable deep v && haveReadable deep rest

end

/-- The value of a member by its name. -/
def member? (v : Json) (name : String) : Option Json :=
  match v with
  | .object members => members.lookup name
  | _ => none

end Json
end EvmClient
