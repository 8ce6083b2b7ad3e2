import EvmClient.Wire.Transaction

/-
Blocks with their full transactions, as a node reports them. -/
namespace EvmClient

structure Block where
  number : Word64
  hash : Hash
  parentHash : Hash
  miner : Address
  gasLimit : Word256
  gasUsed : Word256
  timestamp : Word256
  baseFee : Option Word256
  transactions : List Transaction
deriving DecidableEq, Inhabited

namespace Block

def toJson (b : Block) : Json :=
  .object ([("number", Wire.quantity b.number), ("hash", Wire.fixed b.hash), ("parentHash", Wire.fixed b.parentHash),
    ("miner", Wire.fixed b.miner), ("gasLimit", Wire.quantity b.gasLimit), ("gasUsed", Wire.quantity b.gasUsed),
    ("timestamp", Wire.quantity b.timestamp)] ++ Json.memberIfSome "baseFeePerGas" Wire.quantity b.baseFee ++
    [("transactions", .array (b.transactions.map Transaction.toJson))])

def fieldNames : List String :=
  ["number", "hash", "parentHash", "miner", "gasLimit", "gasUsed", "timestamp", "baseFeePerGas", "transactions"]

def ofJson? (j : Json) : Option Block := do
  let f ← j.fields? fieldNames
  return {
    number := ← f.required "number" (Wire.quantity? 64)
    hash := ← f.required "hash" (Wire.fixed? 32)
    parentHash := ← f.required "parentHash" (Wire.fixed? 32)
    miner := ← f.orDefault "miner" (FixedBytes.zero 20) (Wire.fixed? 20)
    gasLimit := ← f.orDefault "gasLimit" 0 (Wire.quantity? 256)
    gasUsed := ← f.orDefault "gasUsed" 0 (Wire.quantity? 256)
    timestamp := ← f.orDefault "timestamp" 0 (Wire.quantity? 256)
    baseFee := ← f.optionalOrAbsent "baseFeePerGas" (Wire.quantity? 256)
    transactions := ← f.orDefault "transactions" [] (Json.asList? Transaction.ofJson?) }

end Block

/-- A block number as a parameter of a node's methods. -/
def blockParameter (number : Nat) : String := Wire.quantityText number

end EvmClient
