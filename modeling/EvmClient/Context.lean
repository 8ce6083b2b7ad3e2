/-
What ends a call from outside: a deadline, or a signal through a cancel handle.

   A context is done from its deadline on, and from the moment on at which its handle was cancelled.
   Contexts derived from one another share the handle. Dropping a handle is not cancelling it, and what
   was cancelled before it was dropped stays cancelled. Times are in milliseconds. -/
namespace EvmClient

/-- The number of a cancel handle. -/
abbrev Handle := Nat

/-- What became of a cancel handle. -/
structure Signal where
  cancelled : Bool
  /-- Nothing is cancelled through the handle any more. -/
  dropped : Bool
deriving DecidableEq

/-- The handles that were made, by their numbers. -/
structure Signals where
  list : List Signal
deriving DecidableEq

namespace Signals

def empty : Signals := ⟨[]⟩

def fresh (s : Signals) : Handle × Signals := (s.list.length, ⟨s.list ++ [⟨false, false⟩]⟩)

def cancel (h : Handle) (s : Signals) : Signals :=
  ⟨s.list.modify h fun g => if g.dropped then g else { g with cancelled := true }⟩

def drop (h : Handle) (s : Signals) : Signals := ⟨s.list.modify h fun g => { g with dropped := true }⟩

def isCancelled (h : Handle) (s : Signals) : Bool := s.list[h]?.any Signal.cancelled

end Signals

structure Context where
  deadline? : Option Nat
  handle? : Option Handle
deriving DecidableEq

namespace Context

/-- The context that is never done. -/
def background : Context := ⟨none, none⟩

def withTimeout (now span : Nat) : Context := ⟨some (now + span), none⟩

def withHandle (h : Handle) : Context := ⟨none, some h⟩

/-- The context that is also done `span` from now; an earlier deadline stays. -/
def timeout (now span : Nat) (c : Context) : Context :=
  { c with deadline? := some ((c.deadline?.map (min · (now + span))).getD (now + span)) }

def isDone (now : Nat) (s : Signals) (c : Context) : Bool :=
  c.deadline?.any (· ≤ now) || c.handle?.any s.isCancelled

end Context
end EvmClient
