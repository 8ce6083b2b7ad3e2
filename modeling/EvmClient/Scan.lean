import EvmClient.Lease

/-
Scanning blocks.

   A tick takes up where the store says that the last one ended, but not below the start, and hands the
   transactions of every block below the highest to the handler. The highest block is left for a later
   tick. A transaction whose handling fails is recorded, and the scan goes on. The height of a block is
   written after all its transactions, so a scan that is cut short repeats at most the block it was in.
   Ticks of one scanner exclude each other by a lock. -/
namespace EvmClient

structure Scanner where
  /-- The lock of the scanner's ticks. -/
  lock : Nat
  /-- No block up to this height is scanned. -/
  start : Nat
  /-- The pause between two blocks. -/
  delay : Nat
  handler : Handler

/-- What a tick did. -/
inductive TickOutcome where
  | skipped (resume highest : Nat)
  /-- All blocks between two heights, both of them scanned, with the number of failed transactions. -/
  | scanned (first last failed : Nat)
deriving DecidableEq

/-- How far a tick came. -/
structure Progress where
  last : Nat
  failed : Nat
deriving DecidableEq

/-- How a scan came to its end. -/
inductive ScanEnd where
  | contextDone
  /-- The number of polls that it was given is used up. -/
  | pollsSpent
  /-- There is no scanning without time between the polls. -/
  | noPeriod
deriving DecidableEq

namespace Scanner

/-- A scanner from a start of at least one. -/
def ofStart (lock start delay : Nat) (handler : Handler) : Except ClientError Scanner :=
  if start < 1 then .error .invalidStartHeight else .ok ⟨lock, start, delay, handler⟩

/-! ## Ticks -/

/-- Records a failed transaction; a record that cannot be written is let go. -/
def record (tx : Transaction) (block : Block) (causes : List String) : Program Unit := do
  let recordedAt ← .perform .clock
  let _ ← .perform (.append (.ofTransaction tx block (Verdict.text causes) recordedAt))

/-- Hands transactions of a block to the handler and counts the failed ones. -/
def handleAll (s : Scanner) (block : Block) : List Transaction → Program Nat
  | [] => return 0
  | tx :: rest => do
    match ← .perform (.handle s.handler tx block) with
    | none => s.handleAll block rest
    | some causes =>
      record tx block causes
      return (← s.handleAll block rest) + 1

def fetch (c : Connection) (height : Nat) : Action Block := do
  match ← Action.ask c (.blockByHeight height) with
  | some block => return block
  | none => throw (.blockNotFound height)

/-- Scans the next block and writes its height. -/
def scanNext (s : Scanner) (c : Connection) (p : Progress) : Action Progress := do
  let block ← fetch c (p.last + 1)
  let failed ← s.handleAll block block.transactions
  Action.writeHeight (p.last + 1)
  return ⟨p.last + 1, p.failed + failed⟩

/-- Scans up to so many blocks, until the context is done. -/
def scanBlocks (s : Scanner) (ctx : Context) (c : Connection) : Nat → Progress → Action Progress
  | 0, p => return p
  | left + 1, p => do
    if ← Program.perform (.isDone ctx) then return p
    let p ← s.scanNext c p
    if s.delay ≠ 0 ∧ left ≠ 0 then
      if ← Program.perform (.pause ctx s.delay) then return p
    s.scanBlocks ctx c left p

/-- A tick over a connection. -/
def tickOver (s : Scanner) (ctx : Context) (c : Connection) : Action TickOutcome := do
  let highest := BitVec.toNat (← Action.ask c .blockNumber)
  let resume := max (← Action.readHeight) s.start
  if highest ≤ resume then return .skipped resume highest
  let p ← s.scanBlocks ctx c (highest - 1 - resume) ⟨resume, 0⟩
  if p.last = resume then return .skipped resume highest
  return .scanned (resume + 1) p.last p.failed

def tick (s : Scanner) (ctx : Context) : Action TickOutcome := .mk do
  .perform (.lock s.lock)
  let r ← (Lease.withConnection (s.tickOver ctx)).run
  .perform (.unlock s.lock)
  return r

/-! ## Scans -/

/-- How late a tick may be without moving the ticks after it. -/
def tolerance : Nat := 5

/-- When the next tick is due after one that was due at one time and came at another. -/
def nextDue (period due now : Nat) : Nat := if due + tolerance < now then now + period else due + period

/-- Ticks when due until the context is done; a tick that fails does not end the scan. -/
def poll (s : Scanner) (ctx : Context) (period : Nat) : (polls due : Nat) → Program ScanEnd
  | 0, _ => return .pollsSpent
  | polls + 1, due => do
    if ← .perform (.pause ctx (due - (← .perform .time))) then return .contextDone
    let now ← .perform .time
    let _ ← (s.tick ctx).run
    s.poll ctx period polls (nextDue period due now)

/-- Scans until the context is done, but for no more than so many ticks. The first is due at once. -/
def run (s : Scanner) (ctx : Context) (period polls : Nat) : Program ScanEnd := do
  if period = 0 then return .noPeriod
  s.poll ctx period polls (← .perform .time)

end Scanner
end EvmClient
