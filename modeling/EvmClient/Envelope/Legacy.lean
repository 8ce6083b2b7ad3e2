import EvmClient.Digest.Keccak
import EvmClient.Rlp

/-
Legacy transactions: the six fields, the digests that are signed, and the signed form.

   The value `v` of a signature carries its parity and, from 35 on, the chain it was made for:
   `v = 35 + 2 * chain + parity`. The older values 27 and 28 name no chain. -/
namespace EvmClient

/-- The product, or the greatest 256-bit value where it is exceeded. -/
def Word256.satMul (a b : Word256) : Word256 :=
  if a.toNat * b.toNat < Word256.size then a * b else BitVec.allOnes 256

/-- The sum, or the greatest 256-bit value where it is exceeded. -/
def Word256.satAdd (a b : Word256) : Word256 :=
  if a.toNat + b.toNat < Word256.size then a + b else BitVec.allOnes 256

/-- A transaction that is not signed yet. No recipient means contract creation. -/
structure Draft where
  nonce : Word64
  gasPrice : Word256
  gasLimit : Word64
  recipient : Option Address
  value : Word256
  data : Bytes
deriving DecidableEq

/-- A signature with its chain-carrying value `v`. -/
structure ChainSignature where
  v : Word64
  r : Word256
  s : Word256
deriving DecidableEq

/-- A signed legacy transaction. -/
structure Legacy where
  draft : Draft
  signature : ChainSignature
deriving DecidableEq

/-- A missing recipient is written as the empty string. -/
def Rlp.recipient (a : Option Address) : Bytes :=
  match a with
  | some a => Rlp.fixed a
  | none => Rlp.string []

/-- A recipient is empty or has the length of an address. -/
def Rlp.recipient? (item : Bytes) : Except Rlp.DecodeError (Option Address) :=
  match Rlp.string? item with
  | .error e => .error e
  | .ok [] => .ok none
  | .ok b =>
    match FixedBytes.ofList? b with
    | some a => .ok (some a)
    | none => .error .addressLength

namespace Draft

/-- The most that the transaction can spend on gas. -/
def gasCost (d : Draft) : Word256 := Word256.satMul d.gasPrice (d.gasLimit.setWidth 256)

/-- The six written fields. -/
def fields (d : Draft) : List Bytes :=
  [Rlp.quantity d.nonce, Rlp.quantity d.gasPrice, Rlp.quantity d.gasLimit, Rlp.recipient d.recipient,
   Rlp.quantity d.value, Rlp.string d.data]

/-- What is signed for one chain: the fields, the chain, and two zeros. -/
def chainPayload (d : Draft) (chain : Word64) : Bytes :=
  Rlp.list (d.fields ++ [Rlp.quantity chain, Rlp.string [], Rlp.string []])

/-- What is signed for no particular chain: the fields alone. -/
def plainPayload (d : Draft) : Bytes := Rlp.list d.fields

def signingHash (d : Draft) (chain : Word64) : Hash := keccak256 (d.chainPayload chain)

def plainHash (d : Draft) : Hash := keccak256 d.plainPayload

def signed (d : Draft) (signature : ChainSignature) : Legacy := ⟨d, signature⟩

end Draft

namespace ChainSignature

/-- The chain that `v` names. -/
def chain? (sig : ChainSignature) : Option Word64 :=
  if 35 ≤ sig.v.toNat then some (BitVec.ofNat 64 ((sig.v.toNat - 35) / 2)) else none

end ChainSignature

namespace Legacy

/-- The bytes that are handed to the node. -/
def raw (t : Legacy) : Bytes :=
  Rlp.list (t.draft.fields ++ [Rlp.quantity t.signature.v, Rlp.quantity t.signature.r, Rlp.quantity t.signature.s])

def hash (t : Legacy) : Hash := keccak256 t.raw

def chain? (t : Legacy) : Option Word64 := t.signature.chain?

/-- The digest that was signed and the parity of the signature. -/
def recovery? (t : Legacy) : Option (Hash × Bool) :=
  let v := t.signature.v.toNat
  match t.chain? with
  | some chain => some (t.draft.signingHash chain, v - 35 - chain.toNat * 2 == 1)
  | none => if v = 27 ∨ v = 28 then some (t.draft.plainHash, v == 28) else none

/-- Reads a signed transaction: nine entries, each in its shortest form. -/
def decode? (b : Bytes) : Except Rlp.DecodeError Legacy := do
  let l ← Rlp.ListView.of? b
  if l.entries.length ≠ 9 then throw .wrongCount
  let nonce ← Rlp.word64? (← l.entry 0)
  let gasPrice ← Rlp.quantity? 256 (← l.entry 1)
  let gasLimit ← Rlp.word64? (← l.entry 2)
  let recipient ← Rlp.recipient? (← l.entry 3)
  let value ← Rlp.quantity? 256 (← l.entry 4)
  let data ← Rlp.string? (← l.entry 5)
  let v ← Rlp.word64? (← l.entry 6)
  let r ← Rlp.quantity? 256 (← l.entry 7)
  let s ← Rlp.quantity? 256 (← l.entry 8)
  return ⟨⟨nonce, gasPrice, gasLimit, recipient, value, data⟩, ⟨v, r, s⟩⟩

end Legacy
end EvmClient
