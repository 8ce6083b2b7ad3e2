import EvmClient.Timestamp
import EvmClient.Wire.Block

/-
The record of a transaction whose handling failed: what was transferred, the height, the reason, and
   the time of the record. -/
namespace EvmClient

structure FailedRecord where
  sender : Address
  hash : Hash
  value : Word256
  recipient : Option Address
  nonce : Word256
  data : Bytes
  height : Word64
  reason : String
  recordedAt : Timestamp
deriving DecidableEq

namespace FailedRecord

def ofTransaction (t : Transaction) (b : Block) (reason : String) (recordedAt : Timestamp) : FailedRecord :=
  ⟨t.sender, t.hash, t.value, t.recipient, t.nonce, t.input, b.number, reason, recordedAt⟩

def toJson (r : FailedRecord) : Json :=
  .object [("from", Wire.fixed r.sender), ("hash", Wire.fixed r.hash), ("value", Wire.quantity r.value),
    ("to", Json.orNull Wire.fixed r.recipient), ("nonce", Wire.quantity r.nonce), ("data", Wire.bytes r.data),
    ("blockHeight", Json.ofNat r.height.toNat), ("error", .string r.reason), ("recordedAt", .string r.recordedAt.text)]

def fieldNames : List String :=
  ["from", "hash", "value", "to", "nonce", "data", "blockHeight", "error", "recordedAt"]

def ofJson? (j : Json) : Option FailedRecord := do
  let f ← j.fields? fieldNames
  return {
    sender := ← f.required "from" (Wire.fixed? 20)
    hash := ← f.required "hash" (Wire.fixed? 32)
    value := ← f.required "value" (Wire.quantity? 256)
    recipient := ← f.optional "to" (Wire.fixed? 20)
    nonce := ← f.required "nonce" (Wire.quantity? 256)
    data := ← f.required "data" Wire.bytes?
    height := ← (f.required "blockHeight" (Json.asNat? UInt64.size)).map (BitVec.ofNat 64)
    reason := ← f.required "error" Json.asString?
    recordedAt := ← (f.required "recordedAt" Json.asString?).bind Timestamp.ofText? }

end FailedRecord
end EvmClient
