import EvmClient.Envelope.Legacy
import EvmClient.Error

/-
Whether a balance pays for a transaction: it must exceed the gas cost, and for a native transfer the
   gas cost and the amount together. Sums and products beyond 256 bits count as the greatest value. -/
namespace EvmClient

def checkFunds (balance gasCost : Word256) (amount : Option Word256) : Except ClientError Unit :=
  if balance.toNat ≤ gasCost.toNat then .error (.insufficientGas balance gasCost)
  else
    match amount with
    | none => .ok ()
    | some a =>
      if balance.toNat ≤ (Word256.satAdd gasCost a).toNat then
        .error (.insufficientGasPlusAmount balance gasCost a)
      else .ok ()

end EvmClient
