import EvmClient.Wire.Forms

/-
Logs and receipts as a node reports them. -/
namespace EvmClient

/-- An event that a contract emitted. -/
structure Log where
  address : Address
  topics : List Hash
  data : Bytes
  blockNumber : Option Word64
  transactionHash : Option Hash
  logIndex : Option Word64
  removed : Bool
deriving DecidableEq, Inhabited

/-- The outcome of a transaction. -/
structure Receipt where
  transactionHash : Hash
  transactionIndex : Word64
  blockHash : Option Hash
  blockNumber : Option Word64
  sender : Address
  recipient : Option Address
  cumulativeGasUsed : Word256
  gasUsed : Option Word256
  contractAddress : Option Address
  logs : List Log
  bloom : Bloom
  status : Option Word64
deriving DecidableEq, Inhabited

namespace Log

def toJson (l : Log) : Json :=
  .object [("address", Wire.fixed l.address), ("topics", .array (l.topics.map Wire.fixed)), ("data", Wire.bytes l.data),
    ("blockNumber", Json.orNull Wire.quantity l.blockNumber),
    ("transactionHash", Json.orNull Wire.fixed l.transactionHash),
    ("logIndex", Json.orNull Wire.quantity l.logIndex), ("removed", .bool l.removed)]

def fieldNames : List String :=
  ["address", "topics", "data", "blockNumber", "transactionHash", "logIndex", "removed"]

def ofJson? (j : Json) : Option Log := do
  let f ← j.fields? fieldNames
  return {
    address := ← f.required "address" (Wire.fixed? 20)
    topics := ← f.orDefault "topics" [] (Json.asList? (Wire.fixed? 32))
    data := ← f.orDefault "data" [] Wire.bytes?
    blockNumber := ← f.optionalOrAbsent "blockNumber" (Wire.quantity? 64)
    transactionHash := ← f.optionalOrAbsent "transactionHash" (Wire.fixed? 32)
    logIndex := ← f.optionalOrAbsent "logIndex" (Wire.quantity? 64)
    removed := ← f.orDefault "removed" false Json.asBool? }

end Log

namespace Receipt

def isSuccess (r : Receipt) : Bool := r.status == some 1

/-- The transaction was mined and had no effect but its cost. -/
def isFailed (r : Receipt) : Bool := r.status == some 0

def toJson (r : Receipt) : Json :=
  .object [("transactionHash", Wire.fixed r.transactionHash), ("transactionIndex", Wire.quantity r.transactionIndex),
    ("blockHash", Json.orNull Wire.fixed r.blockHash), ("blockNumber", Json.orNull Wire.quantity r.blockNumber),
    ("from", Wire.fixed r.sender), ("to", Json.orNull Wire.fixed r.recipient),
    ("cumulativeGasUsed", Wire.quantity r.cumulativeGasUsed), ("gasUsed", Json.orNull Wire.quantity r.gasUsed),
    ("contractAddress", Json.orNull Wire.fixed r.contractAddress), ("logs", .array (r.logs.map Log.toJson)),
    ("logsBloom", Wire.fixed r.bloom), ("status", Json.orNull Wire.quantity r.status)]

def fieldNames : List String :=
  ["transactionHash", "transactionIndex", "blockHash", "blockNumber", "from", "to", "cumulativeGasUsed", "gasUsed",
   "contractAddress", "logs", "logsBloom", "status"]

def ofJson? (j : Json) : Option Receipt := do
  let f ← j.fields? fieldNames
  return {
    transactionHash := ← f.required "transactionHash" (Wire.fixed? 32)
    transactionIndex := ← f.orDefault "transactionIndex" 0 (Wire.quantity? 64)
    blockHash := ← f.optionalOrAbsent "blockHash" (Wire.fixed? 32)
    blockNumber := ← f.optionalOrAbsent "blockNumber" (Wire.quantity? 64)
    sender := ← f.orDefault "from" (FixedBytes.zero 20) (Wire.fixed? 20)
    recipient := ← f.optionalOrAbsent "to" (Wire.fixed? 20)
    cumulativeGasUsed := ← f.orDefault "cumulativeGasUsed" 0 (Wire.quantity? 256)
    gasUsed := ← f.optionalOrAbsent "gasUsed" (Wire.quantity? 256)
    contractAddress := ← f.optionalOrAbsent "contractAddress" (Wire.fixed? 20)
    logs := ← f.orDefault "logs" [] (Json.asList? Log.ofJson?)
    bloom := ← f.orDefault "logsBloom" (FixedBytes.zero 256) (Wire.fixed? 256)
    status := ← f.optionalOrAbsent "status" (Wire.quantity? 64) }

end Receipt
end EvmClient
