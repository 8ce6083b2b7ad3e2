import EvmClient.Wire.Forms

/-
A transaction as a node reports it. -/
namespace EvmClient

/-- A pending transaction has no block yet; contract creation has no recipient. -/
structure Transaction where
  hash : Hash
  nonce : Word256
  blockHash : Option Hash
  blockNumber : Option Word64
  transactionIndex : Option Word64
  sender : Address
  recipient : Option Address
  value : Word256
  gasPrice : Option Word256
  gas : Word256
  input : Bytes
  type : Option Word64
  chain : Option Word64
  v : Word64
  r : Word256
  s : Word256
deriving DecidableEq, Inhabited

namespace Transaction

def isPending (t : Transaction) : Bool := t.blockNumber.isNone

def toJson (t : Transaction) : Json :=
  .object ([("hash", Wire.fixed t.hash), ("nonce", Wire.quantity t.nonce),
    ("blockHash", Json.orNull Wire.fixed t.blockHash), ("blockNumber", Json.orNull Wire.quantity t.blockNumber),
    ("transactionIndex", Json.orNull Wire.quantity t.transactionIndex), ("from", Wire.fixed t.sender),
    ("to", Json.orNull Wire.fixed t.recipient), ("value", Wire.quantity t.value),
    ("gasPrice", Json.orNull Wire.quantity t.gasPrice), ("gas", Wire.quantity t.gas), ("input", Wire.bytes t.input)] ++
    Json.memberIfSome "type" Wire.quantity t.type ++ Json.memberIfSome "chainId" Wire.quantity t.chain ++
    [("v", Wire.quantity t.v), ("r", Wire.quantity t.r), ("s", Wire.quantity t.s)])

def fieldNames : List String :=
  ["hash", "nonce", "blockHash", "blockNumber", "transactionIndex", "from", "to", "value", "gasPrice", "gas", "input",
   "type", "chainId", "v", "r", "s"]

def ofJson? (j : Json) : Option Transaction := do
  let f ← j.fields? fieldNames
  return {
    hash := ← f.required "hash" (Wire.fixed? 32)
    nonce := ← f.required "nonce" (Wire.quantity? 256)
    blockHash := ← f.optionalOrAbsent "blockHash" (Wire.fixed? 32)
    blockNumber := ← f.optionalOrAbsent "blockNumber" (Wire.quantity? 64)
    transactionIndex := ← f.optionalOrAbsent "transactionIndex" (Wire.quantity? 64)
    sender := ← f.required "from" (Wire.fixed? 20)
    recipient := ← f.optionalOrAbsent "to" (Wire.fixed? 20)
    value := ← f.required "value" (Wire.quantity? 256)
    gasPrice := ← f.optionalOrAbsent "gasPrice" (Wire.quantity? 256)
    gas := ← f.required "gas" (Wire.quantity? 256)
    input := ← f.orDefault "input" [] Wire.bytes?
    type := ← f.optionalOrAbsent "type" (Wire.quantity? 64)
    chain := ← f.optionalOrAbsent "chainId" (Wire.quantity? 64)
    v := ← f.orDefault "v" 0 (Wire.quantity? 64)
    r := ← f.orDefault "r" 0 (Wire.quantity? 256)
    s := ← f.orDefault "s" 0 (Wire.quantity? 256) }

end Transaction
end EvmClient
