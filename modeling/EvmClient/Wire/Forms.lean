import EvmClient.Hex
import EvmClient.Json.Record

/-
The forms that quantities and byte strings take in a node's JSON.

   A quantity is written as `0x` and its hexadecimal digits without leading zeros, a byte string as `0x`
   and two digits per byte. Reading is more lenient: the mark may be missing, quantities may have leading
   zeros up to their full width, and quantities and fixed byte strings skip blanks between digits. -/
namespace EvmClient.Wire

/-! ## Writing -/

def quantityText (n : Nat) : String := "0x" ++ String.ofList (Nat.toDigits 16 n)

def quantity {w : Nat} (v : BitVec w) : Json := .string (quantityText v.toNat)

def fixed {n : Nat} (b : FixedBytes n) : Json := .string (Hex.encode0x b.toList)

def bytes (b : Bytes) : Json := .string (Hex.encode0x b)

/-! ## Reading -/

/-- The text without one mark `0x` at its start. -/
def stripMark : List Char → List Char
  | '0' :: 'x' :: rest => rest
  | cs => cs

def isSkipped (c : Char) : Bool := c == ' ' || c == '\r' || c == '\n' || c == '\t'

/-- Pairs of half bytes as bytes; a last half without a partner is dropped. -/
def pairs : List Nat → Bytes
  | hi :: lo :: rest => UInt8.ofNat (hi * 16 + lo) :: pairs rest
  | _ => []

/-- The bytes that a text of digits denotes. Blanks between the digits are skipped, but they count when
the length decides whether the first digit stands alone. -/
def looseBytes? (cs : List Char) : Option Bytes := do
  let halves ← (cs.filter (!isSkipped ·)).mapM Hex.value?
  return pairs (if cs.length % 2 = 1 then 0 :: halves else halves)

/-- A quantity of at most `w` bits: one digit at least, and no more than the width holds. -/
def quantityOf? (w : Nat) (s : String) : Option (BitVec w) :=
  let cs := stripMark s.toList
  if 0 < cs.length ∧ cs.length * 4 ≤ w then (looseBytes? cs).map fun b => BitVec.ofNat w (Bytes.toNat b)
  else none

/-- A byte string of length `n`: exactly `2 * n` characters. Where blanks stood, zeros follow at the end. -/
def fixedOf? (n : Nat) (s : String) : Option (FixedBytes n) :=
  let cs := stripMark s.toList
  if cs.length = 2 * n then
    (looseBytes? cs).bind fun b => FixedBytes.ofList? (b ++ List.replicate (n - b.length) 0)
  else none

/-- A byte string of any length. -/
def bytesOf (s : String) : Except Hex.DecodeError Bytes := Hex.decode (Hex.utf8 (Hex.stripMarks s.toList))

def quantity? (w : Nat) : Json → Option (BitVec w)
  | .string s => quantityOf? w s
  | _ => none

def fixed? (n : Nat) : Json → Option (FixedBytes n)
  | .string s => fixedOf? n s
  | _ => none

def bytes? : Json → Option Bytes
  | .string s => (bytesOf s).toOption
  | _ => none

end EvmClient.Wire
