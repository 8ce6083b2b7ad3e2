import EvmClient.Error
import EvmClient.FailedRecord

/-
What a scan keeps: the height of the last finished block, and the records of failed transactions.

   `CheckpointStore` says what a scan asks of its store. `MemoryStore` is the store that lives and dies
   with the program; it also remembers every height that was written. -/
namespace EvmClient

class CheckpointStore (σ : Type) where
  /-- Makes the store at a path ready for a scan. -/
  openAt : String → σ → Except ClientError Unit × σ
  /-- The last finished height, zero where none was ever written. -/
  readHeight : σ → Except ClientError Nat
  writeHeight : Nat → σ → Except ClientError Unit × σ
  append : FailedRecord → σ → Except ClientError Unit × σ

structure MemoryStore where
  height : Nat
  /-- Every height that was written, in order. -/
  writes : List Nat
  failed : List FailedRecord
deriving DecidableEq, Inhabited

namespace MemoryStore

def withHeight (height : Nat) : MemoryStore := ⟨height, [], []⟩

def empty : MemoryStore := withHeight 0

instance : CheckpointStore MemoryStore where
  openAt _ s := (.ok (), s)
  readHeight s := .ok s.height
  writeHeight h s := (.ok (), { s with height := h, writes := s.writes ++ [h] })
  append r s := (.ok (), { s with failed := s.failed ++ [r] })

end MemoryStore
end EvmClient
