import EvmClient.Address
import EvmClient.Amount

/-
What a caller asks to be sent, and the checks that need no node.

   The checks come in a fixed order, and the first that fails gives the error: the recipient, the
   contract, the nonce, the amount. -/
namespace EvmClient

/-- Where the nonce of a transaction comes from. -/
inductive NoncePolicy where
  /-- The node's pending nonce. -/
  | pending
  /-- The given nonce; zero stands for the pending one. -/
  | explicit (nonce : Word64)
  /-- The given nonce, which must not be zero nor below the pending one. -/
  | guarded (nonce : Word64)
deriving DecidableEq

/-- The nonce that a policy names, zero apart. -/
def NoncePolicy.named? : NoncePolicy → Option Word64
  | .pending => none
  | .explicit n | .guarded n => if n = 0 then none else some n

/-- What is sent. -/
inductive Payload where
  | native (amount : String)
  | token (amount : String) (contract : Option String)
  /-- Call data for the contract that the recipient names. -/
  | rawCall (data : Bytes)
deriving DecidableEq

/-- A request as the caller gives it. -/
structure SendRequest where
  key : String
  recipient : String
  payload : Payload
  nonce : NoncePolicy
deriving DecidableEq

/-- A request that passed its checks. -/
inductive Transfer where
  | native (payee : Address) (amount : DecimalAmount)
  | token (contract payee : Address) (amount : DecimalAmount)
  | rawCall (contract : Address) (data : Bytes)
deriving DecidableEq

namespace Transfer

/-- The recipient of the transaction: a token transfer goes to the contract. -/
def recipient : Transfer → Address
  | .native payee _ => payee
  | .token contract _ _ => contract
  | .rawCall contract _ => contract

def label : Transfer → String
  | .native _ _ => "native"
  | .token _ _ _ => "token"
  | .rawCall _ _ => "raw_call"

end Transfer

namespace SendRequest

def checkNonce (r : SendRequest) : Except ClientError Unit :=
  if r.nonce = .guarded 0 then .error .nonceRequired else .ok ()

def validate (r : SendRequest) : Except ClientError Transfer :=
  match r.payload with
  | .native amount => do
    let payee ← Address.parse r.recipient
    r.checkNonce
    return .native payee (← DecimalAmount.parse amount)
  | .token amount contract => do
    let payee ← Address.parse r.recipient
    let contract ← Address.parseContract contract
    r.checkNonce
    return .token contract payee (← DecimalAmount.parse amount)
  | .rawCall data => do
    let contract ← Address.parseContract (some r.recipient)
    r.checkNonce
    return .rawCall contract data

end SendRequest
end EvmClient
