import EvmClient.Confirmation
import EvmClient.Envelope.Raw
import EvmClient.Lease
import EvmClient.Signer
import EvmClient.Token.Reading
import EvmClient.Transfer.Funds
import EvmClient.Transfer.Request

/-
From a request to a submitted transaction.

   What needs no node is checked first, before a connection is held: the request, then the key. Then, in
   this order: a guarded nonce against the pending one; the amount, and for a token the sender's balance
   of it; the estimate of the gas; the native balance; the nonce; the signature; the submission. The
   submission is the last thing that happens, so an error before it has sent nothing. -/
namespace EvmClient.Transfer

/-- What a transaction carries, and what it may spend on gas. -/
structure Content where
  value : Word256
  data : Bytes
  gasLimit : Word64
  /-- What a native transfer takes from the balance beside the gas. -/
  nativeAmount? : Option Word256
deriving DecidableEq

def checkGuard (c : Connection) (sender : Address) : NoncePolicy → Action Unit
  | .guarded given => do
    let pending ← Action.ask c (.pendingNonce sender)
    if given.toNat < pending.toNat then throw (.nonceTooSmall given pending)
  | .pending | .explicit _ => return ()

/-- The gas that the node estimates for a call. -/
def estimate (c : Connection) (sender contract : Address) (data : Bytes) : Action Word64 :=
  Action.ask c (.estimateGas ((CallRequest.ofData contract data).withSender sender))

def content (config : Config) (c : Connection) (sender : Address) : Transfer → Action Content
  | .native _ amount => do
    let value ← amount.baseUnits config.nativeDecimals
    return ⟨value, [], config.nativeGasLimit, some value⟩
  | .token contract payee amount => do
    let units ← amount.baseUnits (← Token.decimals c contract)
    let balance ← Token.balanceOf c contract sender
    if balance.toNat < units.toNat then throw (.insufficientTokenBalance balance units)
    let data := Token.encodeTransfer payee units
    return ⟨0, data, ← estimate c sender contract data, none⟩
  | .rawCall contract data => do
    return ⟨0, data, ← estimate c sender contract data, none⟩

/-- The nonce that a policy names, or the pending one. -/
def chooseNonce (c : Connection) (sender : Address) (policy : NoncePolicy) : Action Word64 :=
  match policy.named? with
  | some nonce => return nonce
  | none => Action.ask c (.pendingNonce sender)

/-- Builds, signs and submits a transfer; gives the hash that the node answers. -/
def submit (config : Config) (c : Connection) (transfer : Transfer) (signer : Signer) (policy : NoncePolicy) :
    Action Hash := do
  checkGuard c signer.address policy
  let content ← transfer.content config c signer.address
  let balance ← Action.ask c (.balance signer.address)
  let price ← Action.ask c .gasPrice
  checkFunds balance (Word256.satMul price (content.gasLimit.setWidth 256)) content.nativeAmount?
  let nonce ← chooseNonce c signer.address policy
  let draft : Draft := ⟨nonce, price, content.gasLimit, some transfer.recipient, content.value, content.data⟩
  let signed ← signer.sign draft config.chain
  Action.ask c (.sendRaw signed.raw)

/-- The checks that need no node. -/
def ofRequest (request : SendRequest) : Except ClientError (Transfer × Signer) := do
  let transfer ← request.validate
  return (transfer, ← Signer.parse request.key)

/-- Submits a request. -/
def sendOnly (config : Config) (request : SendRequest) : Action Hash := do
  let (transfer, signer) ← ofRequest request
  Lease.withConnection fun c => transfer.submit config c signer request.nonce

/-- Submits a request and waits for the outcome. -/
def sendAndWait (config : Config) (ctx : Context) (request : SendRequest) : Action TransferReceipt := do
  let (transfer, signer) ← ofRequest request
  Lease.withConnection fun c => do
    let hash ← transfer.submit config c signer request.nonce
    return ⟨hash, ← Confirmation.wait config.confirmation ctx c hash⟩

/-! ## Transactions that are signed already -/

def ofRawText (text : String) : Except ClientError (Bytes × Envelope) :=
  match Envelope.ofHex? text with
  | .ok r => .ok r
  | .error e => .error (.decode e.message)

/-- Submits a raw transaction; gives the node's hash and the decoded transaction. -/
def sendRawOnly (text : String) : Action (Hash × Envelope) := do
  let (raw, tx) ← ofRawText text
  Lease.withConnection fun c => do
    return (← Action.ask c (.sendRaw raw), tx)

/-- Submits a raw transaction and waits for the outcome. -/
def sendRawAndWait (config : Config) (ctx : Context) (text : String) : Action (TransferReceipt × Envelope) := do
  let (raw, tx) ← ofRawText text
  Lease.withConnection fun c => do
    let hash ← Action.ask c (.sendRaw raw)
    return (⟨hash, ← Confirmation.wait config.confirmation ctx c hash⟩, tx)

end EvmClient.Transfer
