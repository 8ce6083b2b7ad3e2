import EvmClient.Context

/-
Waiting until a context is done.

   Who waits watches the clock for the deadline and the channel of the handle for a signal, both at once, and the wait is
   over with the first of the two. A channel keeps the last value that was sent through it and counts the values. The
   watcher looks at the value, and unless it is a cancellation waits for the count to go on, which is told by the count
   that it has seen. A dropped handle ends the watch only where no value is left to be seen: then nothing but the deadline
   ends the wait. What other tasks do with handles may come between any two steps of the watcher; before time goes by it
   has done all that there is to do. -/
namespace EvmClient

/-! ## Channels -/

/-- A handle as the contexts that share it see it. -/
structure Channel extends Signal where
  /-- How many values were sent. -/
  sends : Nat
deriving DecidableEq

namespace Channel

/-- The channel of a new handle. -/
def opened : Channel := ⟨⟨false, false⟩, 0⟩

/-- Sends a cancellation, if the handle is still there. -/
def cancel (g : Channel) : Channel := if g.dropped then g else { g with cancelled := true, sends := g.sends + 1 }

def drop (g : Channel) : Channel := { g with dropped := true }

end Channel

/-- What is done with a handle. -/
inductive HandleAct where
  | cancel (h : Handle)
  | drop (h : Handle)
deriving DecidableEq

/-- The channels of the handles that were made, by their numbers. -/
structure Channels where
  list : List Channel
deriving DecidableEq

namespace Channels

/-- Channels with these signals. -/
def ofSignals (s : Signals) : Channels := ⟨s.list.map fun g => ⟨g, if g.cancelled then 1 else 0⟩⟩

def signals (s : Channels) : Signals := ⟨s.list.map Channel.toSignal⟩

def act (a : HandleAct) (s : Channels) : Channels :=
  match a with
  | .cancel h => ⟨s.list.modify h .cancel⟩
  | .drop h => ⟨s.list.modify h .drop⟩

end Channels

/-! ## The watch of a channel -/

/-- Where a watcher stands. -/
inductive Watch where
  /-- It is about to look at the value. -/
  | looking
  /-- It waits for a value behind so many. -/
  | waiting (seen : Nat)
  /-- The handle is gone and was not used: there is nothing to wait for. -/
  | forsaken
  | signalled
deriving DecidableEq

/-- The next step of a watcher; it changes nothing where there is nothing to do. -/
def Watch.step (g : Channel) : Watch → Watch
  | .looking => if g.cancelled then .signalled else .waiting g.sends
  | .waiting seen => if g.sends ≠ seen then .looking else if g.dropped then .forsaken else .waiting seen
  | .forsaken => .forsaken
  | .signalled => .signalled

/-! ## The wait for a context -/

/-- What happens while a context is waited for. -/
inductive WaitTurn where
  /-- Another task does something with a handle. -/
  | act (a : HandleAct)
  /-- The watcher does a step. -/
  | step
deriving DecidableEq

namespace Context

/-- The channel that a context shares. -/
def channel? (s : Channels) (c : Context) : Option Channel := c.handle?.bind fun h => s.list[h]?

/-- A step of the watcher of a context's channel; without a channel there is none. -/
def watch (s : Channels) (c : Context) (w : Watch) : Watch := ((c.channel? s).map w.step).getD w

/-- The watcher does all that there is to do, which is no more than three steps. -/
def watchOut (s : Channels) (c : Context) (w : Watch) : Watch := c.watch s (c.watch s (c.watch s w))

/-- The channels and the watcher after a turn. -/
def afterTurn (s : Channels) (c : Context) (w : Watch) : WaitTurn → Channels × Watch
  | .act a => (s.act a, w)
  | .step => (s, c.watch s w)

def isOver (now : Nat) (c : Context) (w : Watch) : Bool := c.deadline?.any (· ≤ now) || w = .signalled

/-- Time goes by, and no handle is used: when the wait is over on the way, or else where the watcher stands. -/
def await.pass (c : Context) (now next : Nat) (s : Channels) (w : Watch) : Except Nat Watch :=
  let w := c.watchOut s w
  if c.isOver now w then .error now
  else
    match c.deadline? with
    | some d => if d ≤ next then .error d else .ok w
    | none => .ok w

/-- When the wait is over, if these turns come at their times; without an end in sight it goes on for ever. -/
def await (c : Context) : (turns : List (Nat × WaitTurn)) → (now : Nat) → Channels → Watch → Option Nat
  | [], now, s, w => if c.isOver now (c.watchOut s w) then some now else c.deadline?
  | (t, turn) :: rest, now, s, w =>
    match if now < t then await.pass c now t s w else .ok w with
    | .error stop => some stop
    | .ok w =>
      let (s, w) := c.afterTurn s w turn
      c.await rest t s w

end Context
end EvmClient
