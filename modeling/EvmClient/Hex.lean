import EvmClient.Bytes
import EvmClient.Text.Quoted

/-
Hexadecimal text.

   `encode` writes two lower-case digits per byte. `decode` reads the bytes of a text, in either case,
   and says why it refuses one: an odd number of digits first, then the first byte that is no digit. -/
namespace EvmClient.Hex

/-- Why a text is no hexadecimal byte string. -/
inductive DecodeError where
  | oddLength
  | invalidDigit (byte : UInt8) (position : Nat)
deriving DecidableEq, Repr

/-- The lower-case digit of a value below sixteen. -/
def digit (v : Nat) : Char := if v < 10 then Char.ofNat (48 + v) else Char.ofNat (87 + v)

/-- The value of a digit in either case. -/
def value? (c : Char) : Option Nat :=
  let n := c.toNat
  if 48 ≤ n ∧ n ≤ 57 then some (n - 48)
  else if 97 ≤ n ∧ n ≤ 102 then some (n - 87)
  else if 65 ≤ n ∧ n ≤ 70 then some (n - 55)
  else none

def isDigit (c : Char) : Bool := (value? c).isSome

/-- Two digits per byte, high half first. -/
def encodeChars (b : Bytes) : List Char :=
  b.flatMap fun x => [digit (x.toNat / 16), digit (x.toNat % 16)]

def encode (b : Bytes) : String := String.ofList (encodeChars b)

/-- The text with the mark `0x` in front. -/
def encode0x (b : Bytes) : String := "0x" ++ encode b

/-- The value of a byte as a digit, or its refusal at the given position. -/
def nibble (position : Nat) (x : UInt8) : Except DecodeError Nat :=
  match value? (Char.ofNat x.toNat) with
  | some v => .ok v
  | none => .error (.invalidDigit x position)

/-- The bytes of an even number of digits, the first of which stands at `position`. -/
def decodePairs : Nat → Bytes → Except DecodeError Bytes
  | position, hi :: lo :: rest => do
    let h ← nibble position hi
    let l ← nibble (position + 1) lo
    let r ← decodePairs (position + 2) rest
    return UInt8.ofNat (h * 16 + l) :: r
  | _, _ => .ok []

/-- The bytes that a text of digits denotes; the text is given by its own bytes. -/
def decode (text : Bytes) : Except DecodeError Bytes :=
  if text.length % 2 = 1 then .error .oddLength else decodePairs 0 text

/-- The half bytes of a byte string, high half first. -/
def halves (b : Bytes) : List Nat := b.flatMap fun x => [x.toNat / 16, x.toNat % 16]

/-- What follows the first of some marks that a text starts with, or the text where it starts with none of them. -/
def unmarked (marks : List (List Char)) (cs : List Char) : List Char :=
  match marks.find? (·.isPrefixOf cs) with
  | some mark => cs.drop mark.length
  | none => cs

/-- The text without the marks `0x` at its start, however many there are. -/
def stripMarks : List Char → List Char
  | '0' :: 'x' :: rest => stripMarks rest
  | cs => cs

/-- The UTF-8 bytes of a text. -/
def utf8 (cs : List Char) : Bytes := cs.flatMap String.utf8EncodeChar

/-- A refused byte is shown as the character of that number. -/
def DecodeError.message : DecodeError → String
  | .oddLength => "Odd number of digits"
  | .invalidDigit x position => "Invalid character " ++ Text.quoted '\'' [Char.ofNat x.toNat] ++ " at position " ++ toString position

end EvmClient.Hex
