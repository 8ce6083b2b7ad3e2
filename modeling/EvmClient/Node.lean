import EvmClient.Pool
import EvmClient.Error
import EvmClient.Wire.Block
import EvmClient.Wire.CallRequest
import EvmClient.Wire.Receipt

/-
What a node is asked, and what it answers.

   `Query` lists the questions, `Query.Answer` the type of each one's answer. `Node` is what the client
   needs of a node: to connect, to ask over a connection, to close it. Every question is one request;
   nothing is repeated here. -/
namespace EvmClient

inductive Query where
  /-- The height of the latest block. -/
  | blockNumber
  | chain
  | balance (owner : Address)
  /-- The nonce that follows the account's pending transactions. -/
  | pendingNonce (owner : Address)
  | gasPrice
  | estimateGas (request : CallRequest)
  | call (request : CallRequest)
  /-- Submits a raw transaction; answered by its hash. -/
  | sendRaw (raw : Bytes)
  /-- No receipt means that the transaction is not mined yet. -/
  | receipt (hash : Hash)
  | transaction (hash : Hash)
  | blockByHeight (height : Nat)
  | blockByHash (hash : Hash)
  | code (account : Address)
deriving DecidableEq

@[reducible] def Query.Answer : Query → Type
  | .blockNumber | .chain | .pendingNonce _ | .estimateGas _ => Word64
  | .balance _ | .gasPrice => Word256
  | .call _ | .code _ => Bytes
  | .sendRaw _ => Hash
  | .receipt _ => Option Receipt
  | .transaction _ => Option Transaction
  | .blockByHeight _ | .blockByHash _ => Option Block

class Node (ν : Type) where
  dial : ν → Except ClientError Connection × ν
  ask : (query : Query) → Connection → ν → Except ClientError query.Answer × ν
  close : Connection → ν → ν

end EvmClient
