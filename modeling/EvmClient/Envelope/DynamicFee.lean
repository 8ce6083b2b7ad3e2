import EvmClient.Envelope.Legacy

/-
Dynamic-fee transactions: the twelve fields with the access list, their digests, and reading.

   The envelope is the type byte `02` followed by the list of the fields; what is signed leaves out
   the three signature fields. -/
namespace EvmClient

/-- An address and the storage keys that are announced for it. -/
structure AccessEntry where
  address : Address
  storageKeys : List Hash
deriving DecidableEq

structure DynamicFee where
  chain : Word64
  nonce : Word64
  maxPriorityFee : Word256
  maxFee : Word256
  gasLimit : Word64
  recipient : Option Address
  value : Word256
  data : Bytes
  accessList : List AccessEntry
  v : Word64
  r : Word256
  s : Word256
deriving DecidableEq

namespace AccessEntry

def encode (a : AccessEntry) : Bytes := Rlp.list [Rlp.fixed a.address, Rlp.list (a.storageKeys.map Rlp.fixed)]

/-- Reads an entry; the keys are read before the address. -/
def decode? (b : Bytes) : Except Rlp.DecodeError AccessEntry := do
  let l ← Rlp.ListView.of? b
  if l.entries.length ≠ 2 then throw .wrongCount
  let keys ← Rlp.ListView.of? (← l.entry 1)
  let storageKeys ← keys.entries.mapM (Rlp.fixed? 32)
  let address ← Rlp.fixed? 20 (← l.entry 0)
  return ⟨address, storageKeys⟩

end AccessEntry

namespace DynamicFee

/-- The type byte of the envelope. -/
def typeByte : UInt8 := 2

/-- The nine fields that are signed. -/
def fields (t : DynamicFee) : List Bytes :=
  [Rlp.quantity t.chain, Rlp.quantity t.nonce, Rlp.quantity t.maxPriorityFee, Rlp.quantity t.maxFee,
   Rlp.quantity t.gasLimit, Rlp.recipient t.recipient, Rlp.quantity t.value, Rlp.string t.data,
   Rlp.list (t.accessList.map AccessEntry.encode)]

def payload (t : DynamicFee) : Bytes := typeByte :: Rlp.list t.fields

def signingHash (t : DynamicFee) : Hash := keccak256 t.payload

/-- The bytes that are handed to the node. -/
def raw (t : DynamicFee) : Bytes :=
  typeByte :: Rlp.list (t.fields ++ [Rlp.quantity t.v, Rlp.quantity t.r, Rlp.quantity t.s])

def hash (t : DynamicFee) : Hash := keccak256 t.raw

/-- Reads the list behind the type byte: twelve entries, the access list before the others. -/
def decode? (b : Bytes) : Except Rlp.DecodeError DynamicFee := do
  let l ← Rlp.ListView.of? b
  if l.entries.length ≠ 12 then throw .wrongCount
  let access ← Rlp.ListView.of? (← l.innerEntry 8)
  let accessList ← access.entries.mapM AccessEntry.decode?
  let chain ← Rlp.quantity? 64 (← l.entry 0)
  let nonce ← Rlp.quantity? 64 (← l.entry 1)
  let maxPriorityFee ← Rlp.quantity? 256 (← l.entry 2)
  let maxFee ← Rlp.quantity? 256 (← l.entry 3)
  let gasLimit ← Rlp.quantity? 64 (← l.entry 4)
  let recipient ← Rlp.recipient? (← l.entry 5)
  let value ← Rlp.quantity? 256 (← l.entry 6)
  let data ← Rlp.string? (← l.entry 7)
  let v ← Rlp.quantity? 64 (← l.entry 9)
  let r ← Rlp.quantity? 256 (← l.entry 10)
  let s ← Rlp.quantity? 256 (← l.entry 11)
  return ⟨chain, nonce, maxPriorityFee, maxFee, gasLimit, recipient, value, data, accessList, v, r, s⟩

end DynamicFee
end EvmClient
