import EvmClient.Proofs.PoolCalls
import EvmClient.World
import Mathlib.Data.Multiset.MapFold

/-
The pool as a bounded queue.

   `BoundedQueue` says how a pool is to be used, and not how it keeps its connections: the idle ones are a heap, each
   with the number of its return, and an acquire takes the one with the lowest number, so the one that has been idle
   longest. What is seen of a use is what an acquire answered, which dials were made, and which connections were
   destroyed. All handles of a pool share it, so a use is the same through any of them.

   1. `Program.work` — the dials and the destroyed connections of a program that runs by itself.
   2. `acquire_reuses`, …, `close_again` — what each operation of the pool does, one lemma for each of its cases.
   3. `Shows.turn` — one use is a step of the queue.
   4. `pool_refines_queue` — so any uses, one after the other, are a run of the queue. -/
namespace EvmClient

/-! ## What is seen of a program -/

/-- The outcome of a step that dials. -/
def Op.dialed? : (op : Op) → op.Answer → Option (Except ClientError Connection)
  | .dial, r => some r
  | _, _ => none

/-- What is seen of the work of a program: the outcomes of its dials, and the connections that it destroys. -/
structure PoolWork where
  dials : List (Except ClientError Connection)
  destroyed : List Connection

namespace PoolWork

def none : PoolWork := ⟨[], []⟩

instance : Append PoolWork := ⟨fun a b => ⟨a.dials ++ b.dials, a.destroyed ++ b.destroyed⟩⟩

@[simp] theorem none_append (a : PoolWork) : none ++ a = a := rfl

@[simp] theorem append_none (a : PoolWork) : a ++ none = a := by
  show (⟨a.dials ++ [], a.destroyed ++ []⟩ : PoolWork) = a
  rw [List.append_nil, List.append_nil]

theorem append_assoc (a b c : PoolWork) : a ++ b ++ c = a ++ (b ++ c) := by
  show (⟨a.dials ++ b.dials ++ c.dials, a.destroyed ++ b.destroyed ++ c.destroyed⟩ : PoolWork) = _
  rw [List.append_assoc, List.append_assoc]
  rfl

end PoolWork

section Work
variable {α β ν σ : Type} [Node ν] [CheckpointStore σ]

def Op.work (op : Op) (r : op.Answer) : PoolWork := ⟨(op.dialed? r).toList, op.destroys⟩

/-- The work of a program that runs by itself. -/
def Program.work : Program α → World ν σ → PoolWork
  | .done _, _ => .none
  | .step op next, w => op.work (w.perform op).1 ++ (next (w.perform op).1).work (w.perform op).2

theorem Program.work_step {op : Op} {next : op.Answer → Program α} {w w' : World ν σ} {r : op.Answer}
    (h : w.perform op = (r, w')) : (Program.step op next).work w = op.work r ++ (next r).work w' := by
  rw [work, h]

/-- A step of which nothing is seen. -/
theorem Program.work_quiet {op : Op} {next : op.Answer → Program α} {w w' : World ν σ} {r : op.Answer}
    (h : w.perform op = (r, w')) (hquiet : op.work r = .none) : (Program.step op next).work w = (next r).work w' := by
  rw [work_step h, hquiet, PoolWork.none_append]

theorem Program.work_bind (p : Program α) (f : α → Program β) (w : World ν σ) :
    (p >>= f).work w = p.work w ++ (f (p.run w).1).work (p.run w).2 := by
  induction p generalizing w with
  | done a => rfl
  | step op next ih => exact (congrArg (op.work (w.perform op).1 ++ ·) (ih _ _)).trans (PoolWork.append_assoc _ _ _).symm

/-! ## Each operation, case by case -/

section Operations
variable {w : World ν σ} {c : Connection} {rest cs : List Connection}

/-- What is done to an idle pool that has no connection to give. -/
theorem take_none (hidle : w.pool.idle = []) : w.perform .take = (none, w) := by
  obtain ⟨now, node, ⟨capacity, idle, closed⟩, store, signals, agenda, held, handled, clock⟩ := w
  cases hidle
  rfl

theorem acquire_reuses (hidle : w.pool.idle = c :: rest) :
    Lease.acquire.run.run w = (.ok c, { w with pool := { w.pool with idle := rest } }) ∧
      Lease.acquire.run.work w = .none := by
  have htake : w.perform .take = (some c, { w with pool := { w.pool with idle := rest } }) := by
    show (w.pool.idle.head?, ({ w with pool := { w.pool with idle := w.pool.idle.tail } } : World ν σ)) = _
    rw [hidle]
    rfl
  exact ⟨Program.run_step htake, Program.work_step htake⟩

theorem acquire_refused (hidle : w.pool.idle = []) (hclosed : w.pool.closed = true) :
    Lease.acquire.run.run w = (.error .poolClosed, w) ∧ Lease.acquire.run.work w = .none := by
  have hlook : w.perform .isClosed = (true, w) := Prod.ext hclosed rfl
  constructor
  · exact (Program.run_step (take_none hidle)).trans (Program.run_step hlook)
  · exact (Program.work_quiet (take_none hidle) rfl).trans (Program.work_quiet hlook rfl)

/-- One dial is tried, and its outcome is the answer. -/
theorem acquire_dials (hidle : w.pool.idle = []) (hopen : w.pool.closed = false) :
    Lease.acquire.run.run w = w.perform .dial ∧ Lease.acquire.run.work w = ⟨[(w.perform .dial).1], []⟩ := by
  have hlook : w.perform .isClosed = (false, w) := Prod.ext hopen rfl
  constructor
  · exact (Program.run_step (take_none hidle)).trans (Program.run_step hlook)
  · exact (Program.work_quiet (take_none hidle) rfl).trans (Program.work_quiet hlook rfl)

theorem giveBack_keeps (haccepts : w.pool.accepts = true) :
    (Lease.giveBack c).run w = (true, { w with pool := { w.pool with idle := w.pool.idle ++ [c] } }) ∧
      (Lease.giveBack c).work w = .none := by
  have hput : w.perform (.put c) = (true, { w with pool := { w.pool with idle := w.pool.idle ++ [c] } }) := by
    show ((w.pool.put c).1, ({ w with pool := (w.pool.put c).2 } : World ν σ)) = _
    rw [Pool.put, if_pos haccepts]
  exact ⟨Program.run_step hput, Program.work_quiet hput rfl⟩

theorem giveBack_destroys (hrefuses : w.pool.accepts = false) :
    (Lease.giveBack c).run w = (false, (w.perform (.destroy c)).2) ∧ (Lease.giveBack c).work w = ⟨[], [c]⟩ := by
  have hput : w.perform (.put c) = (false, w) := by
    show ((w.pool.put c).1, ({ w with pool := (w.pool.put c).2 } : World ν σ)) = _
    rw [Pool.put, if_neg (by simp [hrefuses])]
  exact ⟨Program.run_step hput, Program.work_quiet hput rfl⟩

theorem destroyAll_destroys (cs : List Connection) (w : World ν σ) :
    ((Lease.destroyAll cs).run w).2.pool = w.pool ∧ (Lease.destroyAll cs).work w = ⟨[], cs⟩ := by
  induction cs generalizing w with
  | nil => exact ⟨rfl, rfl⟩
  | cons c cs ih =>
    obtain ⟨hpool, hwork⟩ := ih (w.perform (.destroy c)).2
    exact ⟨hpool, congrArg (Op.work (.destroy c) () ++ ·) hwork⟩

theorem close_eq :
    Lease.close = .step .markClosed fun wasOpen => if wasOpen then .step .drain Lease.destroyAll else .done () := rfl

theorem close_empties (hopen : w.pool.closed = false) :
    (Lease.close.run w).2.pool = { w.pool with idle := [], closed := true } ∧
      Lease.close.work w = ⟨[], w.pool.idle⟩ := by
  let marked : World ν σ := { w with pool := { w.pool with closed := true } }
  let drained : World ν σ := { w with pool := { w.pool with idle := [], closed := true } }
  have hmark : w.perform .markClosed = (true, marked) := Prod.ext (congrArg not hopen) rfl
  have hdrain : marked.perform .drain = (w.pool.idle, drained) := rfl
  obtain ⟨hpool, hwork⟩ := destroyAll_destroys w.pool.idle drained
  constructor
  · rw [close_eq, Program.run_step hmark, if_pos rfl, Program.run_step hdrain]
    exact hpool
  · rw [close_eq, Program.work_quiet hmark rfl, if_pos rfl, Program.work_quiet hdrain rfl]
    exact hwork

theorem close_again (hclosed : w.pool.closed = true) : (Lease.close.run w).2.pool = w.pool ∧ Lease.close.work w = .none := by
  obtain ⟨now, node, ⟨capacity, idle, closed⟩, store, signals, agenda, held, handled, clock⟩ := w
  cases hclosed
  exact ⟨rfl, rfl⟩

end Operations
end Work

/-! ## The queue -/

/-- A use of a pool. A lease that comes to its end is dropped or discarded; a connection that was never leased is
released. -/
inductive PoolUse where
  | acquire
  | drop (c : Connection)
  | discard (c : Connection)
  | release (c : Connection)
  | close
deriving DecidableEq

/-- What is seen of a use. -/
structure PoolTurn where
  use : PoolUse
  /-- What an acquire answered. -/
  answer? : Option (Except ClientError Connection)
  work : PoolWork

structure BoundedQueue where
  capacity : Nat
  /-- The idle connections, each with the number of its return: the lowest is that of the one that is idle longest. -/
  idle : Multiset (Connection × Nat)
  leased : Multiset Connection
  /-- How many returned connections were queued so far. -/
  returns : Nat
  closed : Bool

namespace BoundedQueue

/-- An open queue without connections; of size zero it holds three. -/
def ofSize (size : Nat) : BoundedQueue := ⟨if size = 0 then 3 else size, 0, 0, 0, false⟩

/-- A connection comes back by a use: from a lease, or from outside. -/
inductive Returns (q : BoundedQueue) : PoolUse → Connection → BoundedQueue → Prop where
  | dropped {c : Connection} : c ∈ q.leased → Returns q (.drop c) c { q with leased := q.leased.erase c }
  | released (c : Connection) : Returns q (.release c) c q

/-- Whether a connection that comes back is queued. -/
def accepts (q : BoundedQueue) : Prop := q.closed = false ∧ q.idle.card < q.capacity

inductive Step (q : BoundedQueue) : PoolTurn → BoundedQueue → Prop where
  /-- An acquire takes the connection that is idle longest. -/
  | reused {c : Connection} {t : Nat} : (c, t) ∈ q.idle → (∀ e ∈ q.idle, t ≤ e.2) →
    Step q ⟨.acquire, some (.ok c), .none⟩ { q with idle := q.idle.erase (c, t), leased := c ::ₘ q.leased }
  | refused : q.idle = 0 → q.closed = true → Step q ⟨.acquire, some (.error .poolClosed), .none⟩ q
  /-- It dials once where it can take none, and answers what came of it. -/
  | dialed (c : Connection) : q.idle = 0 → q.closed = false →
    Step q ⟨.acquire, some (.ok c), ⟨[.ok c], []⟩⟩ { q with leased := c ::ₘ q.leased }
  | undialed (e : ClientError) : q.idle = 0 → q.closed = false →
    Step q ⟨.acquire, some (.error e), ⟨[.error e], []⟩⟩ q
  | queued {use : PoolUse} {c : Connection} {q' : BoundedQueue} : q.Returns use c q' → q.accepts →
    Step q ⟨use, none, .none⟩ { q' with idle := (c, q.returns) ::ₘ q.idle, returns := q.returns + 1 }
  | overflowed {use : PoolUse} {c : Connection} {q' : BoundedQueue} : q.Returns use c q' → ¬q.accepts →
    Step q ⟨use, none, ⟨[], [c]⟩⟩ q'
  | discarded {c : Connection} : c ∈ q.leased →
    Step q ⟨.discard c, none, ⟨[], [c]⟩⟩ { q with leased := q.leased.erase c }
  /-- A lease that is not held cannot end. -/
  | unheld {use : PoolUse} {c : Connection} : use = .drop c ∨ use = .discard c → c ∉ q.leased →
    Step q ⟨use, none, .none⟩ q
  | closed {cs : List Connection} : q.closed = false → (cs : Multiset Connection) = q.idle.map Prod.fst →
    Step q ⟨.close, none, ⟨[], cs⟩⟩ { q with idle := 0, closed := true }
  | closedAgain : q.closed = true → Step q ⟨.close, none, .none⟩ q

inductive Run : BoundedQueue → List PoolTurn → BoundedQueue → Prop where
  | nil (q : BoundedQueue) : Run q [] q
  | cons {q q' q'' : BoundedQueue} {t : PoolTurn} {ts : List PoolTurn} : q.Step t q' → Run q' ts q'' → Run q (t :: ts) q''

end BoundedQueue

/-! ## The pool in use -/

/-- A pool with the leases that its users hold. -/
structure PoolUsers (ν σ : Type) where
  world : World ν σ
  leases : List Connection

section Uses
variable {ν σ : Type}

/-- The pool keeps the connections of a queue, those that came back earlier in front. -/
structure Shows (q : BoundedQueue) (u : PoolUsers ν σ) : Prop where
  capacity : u.world.pool.capacity = q.capacity
  closed : u.world.pool.closed = q.closed
  leased : q.leased = u.leases
  idle : ∃ entries : List (Connection × Nat), u.world.pool.idle = entries.map Prod.fst ∧ q.idle = entries ∧
    entries.Pairwise (fun e e' => e.2 < e'.2) ∧ ∀ e ∈ entries, e.2 < q.returns

namespace Shows
variable {q : BoundedQueue} {u : PoolUsers ν σ}

theorem start (size : Nat) (w : World ν σ) : Shows (.ofSize size) ⟨{ w with pool := .ofSize size }, []⟩ :=
  ⟨rfl, rfl, rfl, [], rfl, rfl, .nil, fun _ h => absurd h List.not_mem_nil⟩

theorem idle_eq_zero (h : Shows q u) (hidle : u.world.pool.idle = []) : q.idle = 0 := by
  obtain ⟨entries, hqueue, hentries, -⟩ := h.idle
  rw [hidle] at hqueue
  rw [hentries, List.map_eq_nil_iff.1 hqueue.symm]
  rfl

theorem accepts_iff (h : Shows q u) : u.world.pool.accepts = true ↔ q.accepts := by
  obtain ⟨entries, hqueue, hentries, -⟩ := h.idle
  rw [Pool.accepts, BoundedQueue.accepts, h.capacity, h.closed, hqueue, hentries, Multiset.coe_card, List.length_map]
  simp

/-- The connection in front is the one that is idle longest. -/
theorem reused (h : Shows q u) {c : Connection} {rest : List Connection} (hidle : u.world.pool.idle = c :: rest) :
    ∃ t, (c, t) ∈ q.idle ∧ (∀ e ∈ q.idle, t ≤ e.2) ∧
      Shows { q with idle := q.idle.erase (c, t), leased := c ::ₘ q.leased }
        ⟨{ u.world with pool := { u.world.pool with idle := rest } }, c :: u.leases⟩ := by
  obtain ⟨entries, hqueue, hentries, hsorted, hreturns⟩ := h.idle
  rw [hidle] at hqueue
  obtain ⟨⟨_, t⟩, entries, rfl, rfl, rfl⟩ := List.map_eq_cons_iff.1 hqueue.symm
  obtain ⟨hfirst, hsorted⟩ := List.pairwise_cons.1 hsorted
  refine ⟨t, ?_, ?_, h.capacity, h.closed, ?_, entries, rfl, ?_, hsorted, ?_⟩
  · rw [hentries]
    exact List.mem_cons_self
  · rw [hentries]
    intro e he
    rcases List.mem_cons.1 he with rfl | he
    · exact Nat.le_refl _
    · exact Nat.le_of_lt (hfirst e he)
  · rw [h.leased]
    rfl
  · rw [hentries]
    exact Multiset.erase_cons_head (_, t) (entries : Multiset (Connection × Nat))
  · exact fun e he => hreturns e (List.mem_cons_of_mem _ he)

/-- A connection that the pool keeps came back last. -/
theorem queued (h : Shows q u) {c : Connection} {use : PoolUse} {q' : BoundedQueue} {leases : List Connection}
    (hreturns : q.Returns use c q') (hleased : q'.leased = leases) :
    Shows { q' with idle := (c, q.returns) ::ₘ q.idle, returns := q.returns + 1 }
      ⟨{ u.world with pool := { u.world.pool with idle := u.world.pool.idle ++ [c] } }, leases⟩ := by
  have hsame : q'.capacity = q.capacity ∧ q'.closed = q.closed := by cases hreturns <;> exact ⟨rfl, rfl⟩
  obtain ⟨entries, hqueue, hentries, hsorted, hbound⟩ := h.idle
  refine ⟨h.capacity.trans hsame.1.symm, h.closed.trans hsame.2.symm, hleased, entries ++ [(c, q.returns)], ?_, ?_, ?_, ?_⟩
  · rw [List.map_append, ← hqueue]
    rfl
  · rw [hentries]
    exact Multiset.coe_eq_coe.2 (List.perm_append_singleton _ _).symm
  · refine List.pairwise_append.2 ⟨hsorted, List.pairwise_singleton _ _, fun e he e' he' => ?_⟩
    rw [List.mem_singleton.1 he']
    exact hbound e he
  · intro e he
    rcases List.mem_append.1 he with he | he
    · exact Nat.lt_succ_of_lt (hbound e he)
    · rw [List.mem_singleton.1 he]
      exact Nat.lt_succ_self _

theorem mem_leased (h : Shows q u) {c : Connection} : c ∈ q.leased ↔ c ∈ u.leases := by
  rw [h.leased, Multiset.mem_coe]

theorem leased_erase (h : Shows q u) (c : Connection) : q.leased.erase c = (u.leases.erase c : List Connection) := by
  rw [h.leased, Multiset.coe_erase]

/-- Only the pool and the leases count. -/
theorem elsewhere (h : Shows q u) {w : World ν σ} (hpool : w.pool = u.world.pool) {leased : Multiset Connection}
    {leases : List Connection} (hleased : leased = leases) : Shows { q with leased } ⟨w, leases⟩ :=
  ⟨hpool ▸ h.capacity, hpool ▸ h.closed, hleased, hpool ▸ h.idle⟩

theorem emptied (h : Shows q u) {w : World ν σ} (hpool : w.pool = { u.world.pool with idle := [], closed := true }) :
    Shows { q with idle := 0, closed := true } ⟨w, u.leases⟩ := by
  refine ⟨?_, ?_, h.leased, [], ?_, rfl, .nil, fun _ he => absurd he List.not_mem_nil⟩
  · rw [hpool]
    exact h.capacity
  · rw [hpool]
  · rw [hpool]
    rfl

end Shows

variable [Node ν] [CheckpointStore σ]

namespace PoolUsers

/-- What is seen of an operation by which no connection is leased, and what it leaves. -/
def serve {α : Type} (u : PoolUsers ν σ) (use : PoolUse) (p : Program α) (leases : List Connection) :
    PoolTurn × PoolUsers ν σ :=
  (⟨use, none, p.work u.world⟩, ⟨(p.run u.world).2, leases⟩)

/-- The same for the end of a lease, which ends only if it is held. -/
def serveEnd {α : Type} (u : PoolUsers ν σ) (use : PoolUse) (c : Connection) (p : Program α) :
    PoolTurn × PoolUsers ν σ :=
  if c ∈ u.leases then u.serve use p (u.leases.erase c) else (⟨use, none, .none⟩, u)

def turn (u : PoolUsers ν σ) : PoolUse → PoolTurn × PoolUsers ν σ
  | .acquire =>
    let r := Lease.acquire.run.run u.world
    (⟨.acquire, some r.1, Lease.acquire.run.work u.world⟩, ⟨r.2, r.1.toOption.toList ++ u.leases⟩)
  | .drop c => u.serveEnd (.drop c) c (Lease.giveBack c)
  | .discard c => u.serveEnd (.discard c) c (Lease.discard c)
  | .release c => u.serve (.release c) (Lease.giveBack c) u.leases
  | .close => u.serve .close Lease.close u.leases

/-- Uses one after the other. -/
def run (u : PoolUsers ν σ) : List PoolUse → List PoolTurn × PoolUsers ν σ
  | [] => ([], u)
  | use :: uses => ((u.turn use).1 :: ((u.turn use).2.run uses).1, ((u.turn use).2.run uses).2)

end PoolUsers

/-! ## One use -/

namespace Shows
variable {q : BoundedQueue} {u : PoolUsers ν σ}

theorem acquire (h : Shows q u) : ∃ q', q.Step (u.turn .acquire).1 q' ∧ Shows q' (u.turn .acquire).2 := by
  rw [PoolUsers.turn]
  cases hidle : u.world.pool.idle with
  | cons c rest =>
    obtain ⟨hrun, hwork⟩ := acquire_reuses hidle
    obtain ⟨t, hmem, hlongest, hshows⟩ := h.reused hidle
    rw [hrun, hwork]
    exact ⟨_, .reused hmem hlongest, hshows⟩
  | nil =>
    cases hclosed : u.world.pool.closed with
    | true =>
      obtain ⟨hrun, hwork⟩ := acquire_refused hidle hclosed
      rw [hrun, hwork]
      exact ⟨q, .refused (h.idle_eq_zero hidle) (h.closed.symm.trans hclosed), h⟩
    | false =>
      obtain ⟨hrun, hwork⟩ := acquire_dials hidle hclosed
      have hopen := h.closed.symm.trans hclosed
      rw [hrun, hwork]
      have hworld : (u.world.perform .dial).2.pool = u.world.pool := rfl
      cases hdial : (u.world.perform .dial).1 with
      | ok c => exact ⟨_, .dialed c (h.idle_eq_zero hidle) hopen, h.elsewhere hworld (congrArg (c ::ₘ ·) h.leased)⟩
      | error e => exact ⟨q, .undialed e (h.idle_eq_zero hidle) hopen, h.elsewhere hworld h.leased⟩

/-- What comes back is queued or destroyed. -/
theorem giveBack (h : Shows q u) {c : Connection} {use : PoolUse} {q' : BoundedQueue} {leases : List Connection}
    (hreturns : q.Returns use c q') (hq' : { q with leased := leases } = q') :
    ∃ q'', q.Step (u.serve use (Lease.giveBack c) leases).1 q'' ∧ Shows q'' (u.serve use (Lease.giveBack c) leases).2 := by
  rw [PoolUsers.serve]
  cases haccepts : u.world.pool.accepts with
  | true =>
    obtain ⟨hrun, hwork⟩ := giveBack_keeps (c := c) haccepts
    rw [hrun, hwork]
    exact ⟨_, .queued hreturns (h.accepts_iff.1 haccepts), h.queued hreturns (hq' ▸ rfl)⟩
  | false =>
    obtain ⟨hrun, hwork⟩ := giveBack_destroys (c := c) haccepts
    have hrefuses : ¬q.accepts := by
      rw [← h.accepts_iff, haccepts]
      exact Bool.false_ne_true
    have hworld : (u.world.perform (.destroy c)).2.pool = u.world.pool := rfl
    rw [hrun, hwork]
    exact ⟨q', .overflowed hreturns hrefuses, hq' ▸ h.elsewhere hworld rfl⟩

theorem close (h : Shows q u) : ∃ q', q.Step (u.turn .close).1 q' ∧ Shows q' (u.turn .close).2 := by
  rw [PoolUsers.turn, PoolUsers.serve]
  cases hclosed : u.world.pool.closed with
  | false =>
    obtain ⟨hpool, hwork⟩ := close_empties hclosed
    obtain ⟨entries, hqueue, hentries, -⟩ := h.idle
    have hidle : (u.world.pool.idle : Multiset Connection) = q.idle.map Prod.fst := by
      rw [hqueue, hentries, Multiset.map_coe]
    rw [hwork]
    exact ⟨_, .closed (h.closed.symm.trans hclosed) hidle, h.emptied hpool⟩
  | true =>
    obtain ⟨hpool, hwork⟩ := close_again hclosed
    rw [hwork]
    exact ⟨q, .closedAgain (h.closed.symm.trans hclosed), h.elsewhere hpool h.leased⟩

/-- One use is a step of the queue. -/
theorem turn (h : Shows q u) (use : PoolUse) : ∃ q', q.Step (u.turn use).1 q' ∧ Shows q' (u.turn use).2 := by
  cases use with
  | acquire => exact h.acquire
  | close => exact h.close
  | release c => exact h.giveBack (.released c) (h.leased ▸ rfl)
  | drop c =>
    rw [PoolUsers.turn, PoolUsers.serveEnd]
    split
    · rename_i hheld
      exact h.giveBack (.dropped (h.mem_leased.2 hheld)) (h.leased_erase c ▸ rfl)
    · rename_i hheld
      exact ⟨q, .unheld (.inl rfl) (mt h.mem_leased.1 hheld), h⟩
  | discard c =>
    rw [PoolUsers.turn, PoolUsers.serveEnd]
    split
    · rename_i hheld
      have hworld : (u.world.perform (.destroy c)).2.pool = u.world.pool := rfl
      exact ⟨_, .discarded (h.mem_leased.2 hheld), h.elsewhere hworld (h.leased_erase c)⟩
    · rename_i hheld
      exact ⟨q, .unheld (.inr rfl) (mt h.mem_leased.1 hheld), h⟩

/-- So are uses one after the other. -/
theorem run (h : Shows q u) (uses : List PoolUse) : ∃ q', q.Run (u.run uses).1 q' ∧ Shows q' (u.run uses).2 := by
  induction uses generalizing q u with
  | nil => exact ⟨q, .nil q, h⟩
  | cons use uses ih =>
    obtain ⟨q', hstep, hshows⟩ := h.turn use
    obtain ⟨q'', hrun, hshows⟩ := ih hshows
    exact ⟨q'', .cons hstep hrun, hshows⟩

end Shows

theorem uses_of_run (u : PoolUsers ν σ) (uses : List PoolUse) : (u.run uses).1.map PoolTurn.use = uses := by
  induction uses generalizing u with
  | nil => rfl
  | cons use uses ih =>
    have huse : (u.turn use).1.use = use := by
      cases use with
      | drop c | discard c =>
        rw [PoolUsers.turn, PoolUsers.serveEnd]
        split <;> rfl
      | _ => rfl
    rw [PoolUsers.run, List.map_cons, huse, ih]

/-- A pool that is used by one at a time is a bounded queue. Whatever is done with it, and whatever the dials come to,
the answers, the dials and the destroyed connections are those of a run of the queue, and in the end the pool keeps the
connections of the queue in the order in which they came back. -/
theorem pool_refines_queue (size : Nat) (w : World ν σ) (uses : List PoolUse) :
    let start : PoolUsers ν σ := ⟨{ w with pool := .ofSize size }, []⟩
    let turns := (start.run uses).1
    let after := (start.run uses).2
    turns.map PoolTurn.use = uses ∧ ∃ q, (BoundedQueue.ofSize size).Run turns q ∧ Shows q after :=
  ⟨uses_of_run _ uses, (Shows.start size w).run uses⟩

end Uses
end EvmClient
