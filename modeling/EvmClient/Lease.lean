import EvmClient.Program

/-
Leases: connections that an operation holds.

   `acquire` prefers an idle connection to a new one and never waits for one. `withConnection` holds a
   connection for the time of one operation and gives it back however the operation ends. What the pool
   does not keep is destroyed. -/
namespace EvmClient.Lease

/-- An idle connection, or a new one where none is idle. A closed pool makes no new ones. -/
def acquire : Action Connection := do
  match ← Program.perform .take with
  | some c => return c
  | none =>
    if ← Program.perform .isClosed then throw .poolClosed
    Action.dial

/-- Gives a connection back, or destroys it where the pool does not keep it; says which. -/
def giveBack (c : Connection) : Program Bool := do
  if ← .perform (.put c) then return true
  .perform (.destroy c)
  return false

/-- Gives up a connection that is of no more use. -/
def discard (c : Connection) : Program Unit := .perform (.destroy c)

/-- Makes up to so many connections for the pool and counts those that it kept. A failed dial is passed
over; a connection that is not kept is the last. -/
def prewarm : Nat → Program Nat
  | 0 => return 0
  | n + 1 => do
    match ← .perform .dial with
    | .error _ => prewarm n
    | .ok c =>
      if ← giveBack c then return (← prewarm n) + 1
      return 0

def destroyAll : List Connection → Program Unit
  | [] => return ()
  | c :: rest => do
    .perform (.destroy c)
    destroyAll rest

/-- Closes the pool and destroys what was idle; only the first call does anything. -/
def close : Program Unit := do
  if ← .perform .markClosed then destroyAll (← .perform .drain)

/-- Holds a connection for the time of an operation. -/
def withConnection {α : Type} (body : Connection → Action α) : Action α := .mk do
  match ← acquire.run with
  | .error e => return .error e
  | .ok c =>
    let r ← (body c).run
    let _ ← giveBack c
    return r

end EvmClient.Lease
