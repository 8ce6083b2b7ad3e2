/-
The pool of idle connections.

   A pool holds at most `capacity` idle connections, in the order in which they came back. Who needs a
   connection takes the one that waited longest; what comes back to a full or a closed pool is not kept.
   Closing has two parts, since a connection may still be taken between them: `markClosed` turns away
   what comes back, `drain` empties the queue. -/
namespace EvmClient

/-- The number of a connection to a node. -/
abbrev Connection := Nat

structure Pool where
  capacity : Nat
  /-- The idle connections, the one that waited longest first. -/
  idle : List Connection
  closed : Bool
deriving DecidableEq

namespace Pool

def standardCapacity : Nat := 3

/-- An open pool without connections; size zero stands for the standard capacity. -/
def ofSize (size : Nat) : Pool := ⟨if size = 0 then standardCapacity else size, [], false⟩

/-- Takes the connection that waited longest. -/
def take (p : Pool) : Option Connection × Pool := (p.idle.head?, { p with idle := p.idle.tail })

/-- Whether a connection that comes back is kept. -/
def accepts (p : Pool) : Bool := !p.closed && decide (p.idle.length < p.capacity)

/-- Gives a connection back; says whether it was kept. -/
def put (c : Connection) (p : Pool) : Bool × Pool :=
  if p.accepts then (true, { p with idle := p.idle ++ [c] }) else (false, p)

/-- From here on nothing that comes back is kept; says whether the pool was open until now. -/
def markClosed (p : Pool) : Bool × Pool := (!p.closed, { p with closed := true })

def drain (p : Pool) : List Connection × Pool := (p.idle, { p with idle := [] })

end Pool
end EvmClient
