import EvmClient.Digest.Keccak
import EvmClient.Error

/-
Call data and answers of token contracts.

   A call is a four-byte selector and its arguments, a word of 32 bytes each. Answers are read only in
   their one canonical form: a number is a word; a text is an offset word, a length word, and the UTF-8
   bytes padded by zeros to whole words. Old contracts answer with 32 bytes in place of a symbol's text;
   these stand for the bytes before the first zero. -/
namespace EvmClient.Token

def transferSelector : Bytes := [0xa9, 0x05, 0x9c, 0xbb]
def balanceSelector : Bytes := [0x70, 0xa0, 0x82, 0x31]
def decimalsSelector : Bytes := [0x31, 0x3c, 0xe5, 0x67]
def symbolSelector : Bytes := [0x95, 0xd8, 0x9b, 0x41]

/-- The word of an address: twelve zeros in front. -/
def addressWord (a : Address) : Bytes := List.replicate 12 0 ++ a.toList

def numberWord (n : Nat) : Bytes := Bytes.ofNat 32 n

/-! ## Calls -/

def encodeTransfer (payee : Address) (amount : Word256) : Bytes :=
  transferSelector ++ addressWord payee ++ numberWord amount.toNat

def encodeBalanceOf (owner : Address) : Bytes := balanceSelector ++ addressWord owner

def encodeDecimals : Bytes := decimalsSelector

def encodeSymbol : Bytes := symbolSelector

/-! ## Answers -/

/-- The number of a single word. -/
def word? (data : Bytes) : Option Nat := if data.length = 32 then some (Bytes.toNat data) else none

/-- The canonical encoding of a text's bytes. -/
def encodeText (text : Bytes) : Bytes :=
  numberWord 32 ++ numberWord text.length ++ text ++ List.replicate ((32 - text.length % 32) % 32) 0

/-- The text of UTF-8 bytes. -/
def utf8? (b : Bytes) : Option String := String.fromUTF8? ⟨b.toArray⟩

/-- The bytes of a canonically encoded text. -/
def textBytes? (data : Bytes) : Option Bytes :=
  let len := Bytes.toNat ((data.drop 32).take 32)
  let text := (data.drop 64).take len
  if data = encodeText text then some text else none

def decodeBalanceOf (data : Bytes) : Except ClientError Word256 :=
  match word? data with
  | some n => .ok (BitVec.ofNat 256 n)
  | none => .error (.abi "balanceOf: the answer is not one word")

def decodeDecimals (data : Bytes) : Except ClientError Nat :=
  match word? data with
  | some n => if n < 256 then .ok n else .error (.abi "decimals: the answer is above 255")
  | none => .error (.abi "decimals: the answer is not one word")

def decodeSymbol (data : Bytes) : Except ClientError String :=
  match (textBytes? data).bind utf8? with
  | some s => .ok s
  | none =>
    if data.length = 32 then
      match utf8? (data.takeWhile (· != 0)) with
      | some s => .ok s
      | none => .error (.abi "symbol: the answer is not UTF-8")
    else .error (.abi "symbol: the answer is not the canonical form of a text")

end EvmClient.Token
