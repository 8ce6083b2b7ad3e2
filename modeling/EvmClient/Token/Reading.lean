import EvmClient.Amount
import EvmClient.Program
import EvmClient.Token

/-
Reading token contracts over a connection. -/
namespace EvmClient.Token

/-- The answer to call data. -/
def call (c : Connection) (contract : Address) (data : Bytes) : Action Bytes :=
  Action.ask c (.call (.ofData contract data))

/-- A balance in base units. -/
def balanceOf (c : Connection) (contract owner : Address) : Action Word256 := do
  decodeBalanceOf (← call c contract (encodeBalanceOf owner))

def decimals (c : Connection) (contract : Address) : Action Nat := do
  decodeDecimals (← call c contract encodeDecimals)

def symbol (c : Connection) (contract : Address) : Action String := do
  decodeSymbol (← call c contract encodeSymbol)

/-- A balance with the decimals of its token. -/
def amountOf (c : Connection) (contract owner : Address) : Action TokenAmount := do
  let raw ← balanceOf c contract owner
  return ⟨raw, ← decimals c contract⟩

end EvmClient.Token
