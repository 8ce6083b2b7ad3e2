import EvmClient.Checkpoint
import EvmClient.Context.Waiting
import EvmClient.Program

/-
What the client works on, and the run of a program alone.

   `World` holds the time, the node, the pool, the store and the cancel handles, and the events that are
   to happen as time goes by. Time passes in pauses only: a pause goes from event to event up to its end,
   and ends early when its context is done. An event that is due at the end of a pause is left for what
   comes after the pause.

   There is one store, and its writers wait for one another by its lock, so to write a height or a record
   is one step for all who share it (`FileStore.locked_writes_in_order`). Stores that are opened one by one
   over the same directory have a lock each, and their writes may get between one another
   (`FileStore.apart_writes_tear`); such runs are not told here. -/
namespace EvmClient

/-- What happens from outside while a program runs. -/
inductive Event (ν : Type) where
  | cancel (h : Handle)
  | node (change : ν → ν)

structure World (ν σ : Type) where
  now : Nat
  node : ν
  pool : Pool
  store : σ
  signals : Signals
  /-- The coming events, the earliest first. -/
  agenda : List (Nat × Event ν)
  /-- The locks that are taken. -/
  held : List Nat
  /-- The transactions that handlers were given. -/
  handled : List (Transaction × Block)
  /-- What the clock on the wall shows. -/
  clock : Timestamp

namespace World
variable {ν σ : Type}

/-- A world at time zero with an empty pool. -/
def initial (node : ν) (poolSize : Nat) (store : σ) : World ν σ :=
  ⟨0, node, .ofSize poolSize, store, .empty, [], [], [], default⟩

/-! ## Time -/

def happen (e : Event ν) (w : World ν σ) : World ν σ :=
  match e with
  | .cancel h => { w with signals := w.signals.cancel h }
  | .node change => { w with node := change w.node }

def isDone (ctx : Context) (w : World ν σ) : Bool := ctx.isDone w.now w.signals

/-- Goes through the events before a time, or up to those that are due when one has ended the context. -/
def elapse (ctx : Context) (stop : Nat) : List (Nat × Event ν) → World ν σ → World ν σ
  | [], w => { w with now := stop, agenda := [] }
  | (t, e) :: rest, w =>
    if stop ≤ t then { w with now := stop, agenda := (t, e) :: rest }
    else
      let w := happen e { w with now := max w.now t, agenda := rest }
      if w.isDone ctx ∧ rest.all (w.now < ·.1) then w else elapse ctx stop rest w

/-- Waits for a span or until the context is done; says whether it is done. -/
def pause (ctx : Context) (span : Nat) (w : World ν σ) : Bool × World ν σ :=
  if w.isDone ctx then (true, w)
  else if span = 0 then (false, w)
  else
    let stop := (ctx.deadline?.map (min · (w.now + span))).getD (w.now + span)
    let w := elapse ctx stop w.agenda w
    (w.isDone ctx, w)

/-- What an event is to those who wait from `now` on for a context. -/
def waitTurn? (now : Nat) : Nat × Event ν → Option (Nat × WaitTurn)
  | (t, .cancel h) => some (max now t, .act (.cancel h))
  | (_, .node _) => none

/-- When a wait for a context is over, if nothing but the coming events happens. -/
def overAt? (ctx : Context) (w : World ν σ) : Option Nat :=
  ctx.await (w.agenda.filterMap (waitTurn? w.now)) w.now (.ofSignals w.signals) .looking

/-- Waits for a context, but for no longer than a span; says whether it got done in time. A signal at the very end of
the span comes too late. -/
def doneWithin (ctx : Context) (span : Nat) (w : World ν σ) : Bool × World ν σ :=
  let stop := w.now + span
  let inTime := w.isDone ctx || (w.overAt? ctx).any fun t => t < stop || t = stop && ctx.deadline? = some t
  (inTime, (w.pause ctx span).2)

/-- Adds an event to the coming ones, behind those of the same time. -/
def schedule (t : Nat) (e : Event ν) (w : World ν σ) : World ν σ :=
  { w with agenda := w.agenda.takeWhile (·.1 ≤ t) ++ (t, e) :: w.agenda.dropWhile (·.1 ≤ t) }

/-! ## Steps -/

variable [Node ν] [CheckpointStore σ]

def perform (w : World ν σ) : (op : Op) → op.Answer × World ν σ
  | .take => let (c, pool) := w.pool.take; (c, { w with pool })
  | .isClosed => (w.pool.closed, w)
  | .dial => let (r, node) := Node.dial w.node; (r, { w with node })
  | .put c => let (kept, pool) := w.pool.put c; (kept, { w with pool })
  | .destroy c => ((), { w with node := Node.close c w.node })
  | .markClosed => let (open_, pool) := w.pool.markClosed; (open_, { w with pool })
  | .drain => let (cs, pool) := w.pool.drain; (cs, { w with pool })
  | .ask c query => let (r, node) := Node.ask query c w.node; (r, { w with node })
  | .time => (w.now, w)
  | .isDone ctx => (w.isDone ctx, w)
  | .pause ctx span => w.pause ctx span
  | .lock id => ((), { w with held := id :: w.held })
  | .unlock id => ((), { w with held := w.held.erase id })
  | .handle handler tx block =>
    let verdict := handler w.handled tx block
    (verdict.failure?, { w with
      handled := w.handled ++ [(tx, block)]
      signals := verdict.cancels.foldl (fun s h => s.cancel h) w.signals })
  | .openStore path => let (r, store) := CheckpointStore.openAt path w.store; (r, { w with store })
  | .readHeight => (CheckpointStore.readHeight w.store, w)
  | .writeHeight h => let (r, store) := CheckpointStore.writeHeight h w.store; (r, { w with store })
  | .append record => let (r, store) := CheckpointStore.append record w.store; (r, { w with store })
  | .clock => (w.clock, w)

/-- Whether a step can be done at once: only a lock that is taken is waited for. -/
def enabled (w : World ν σ) : Op → Bool
  | .lock id => !w.held.contains id
  | _ => true

end World

/-- Runs a program by itself. -/
def Program.run {α ν σ : Type} [Node ν] [CheckpointStore σ] : Program α → World ν σ → α × World ν σ
  | .done a, w => (a, w)
  | .step op next, w =>
    let (r, w) := w.perform op
    (next r).run w

namespace Program
variable {α β ν σ : Type} [Node ν] [CheckpointStore σ]

@[simp] theorem run_pure (a : α) (w : World ν σ) : (pure a : Program α).run w = (a, w) := rfl

@[simp] theorem run_perform (op : Op) (w : World ν σ) : (perform op).run w = w.perform op := rfl

theorem run_step {op : Op} {next : op.Answer → Program α} {w w' : World ν σ} {r : op.Answer}
    (h : w.perform op = (r, w')) : (step op next).run w = (next r).run w' := by
  rw [run, h]

/-- What follows a program runs in the world that the program left. -/
@[simp] theorem run_bind (p : Program α) (f : α → Program β) (w : World ν σ) :
    (p >>= f).run w = (f (p.run w).1).run (p.run w).2 := by
  induction p generalizing w with
  | done a => rfl
  | step op next ih => exact ih _ _

end Program
end EvmClient
