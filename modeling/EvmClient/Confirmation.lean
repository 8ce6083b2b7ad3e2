import EvmClient.Config
import EvmClient.Program

/-
Waiting for the outcome of a submitted transaction.

   After each interval the node is asked for the receipt. A receipt that failed, or one that succeeded
   and names its block, decides. All other answers, errors among them, count as one attempt, and after
   the last attempt the transaction is unconfirmed, which is no error: it may still be mined. -/
namespace EvmClient

inductive TransferStatus where
  | confirmed (height : Word64)
  | unconfirmed (attempts : Nat)
deriving DecidableEq

def TransferStatus.isConfirmed : TransferStatus → Bool
  | .confirmed _ => true
  | .unconfirmed _ => false

structure TransferReceipt where
  hash : Hash
  status : TransferStatus
deriving DecidableEq

namespace Confirmation

/-- What an answer decides about a transaction, if anything. -/
def decision? (hash : Hash) : Except ClientError (Option Receipt) → Option (Except ClientError TransferStatus)
  | .ok (some receipt) =>
    if receipt.isFailed then some (.error (.transactionFailed hash))
    else if receipt.isSuccess then receipt.blockNumber.map fun height => .ok (.confirmed height)
    else none
  | _ => none

/-- Asks up to `left` times, after `attempts` questions that decided nothing. -/
def poll (interval : Nat) (ctx : Context) (c : Connection) (hash : Hash) : (left attempts : Nat) → Action TransferStatus
  | 0, attempts => return .unconfirmed attempts
  | left + 1, attempts => do
    if ← Program.perform (.pause ctx interval) then throw (.receiptReadTimeout hash)
    if ← Program.perform (.isDone ctx) then throw (.receiptReadTimeout hash)
    match decision? hash (← (Action.ask c (.receipt hash)).outcome) with
    | some r => r
    | none => poll interval ctx c hash left (attempts + 1)

def wait (config : ConfirmationConfig) (ctx : Context) (c : Connection) (hash : Hash) : Action TransferStatus :=
  poll config.pollInterval ctx c hash config.maxRetries 0

end Confirmation
end EvmClient
