import EvmClient.Node.Simulated
import EvmClient.Proofs.FacadeCalls
import EvmClient.Proofs.Interleaving
import EvmClient.Proofs.PoolSafety

/-
Operations that begin after the pool was closed.

   Tasks run operations of the pool and of the client that owns it, in any interleaving. Nothing but the tasks
   touches the pool; all else may change between two steps. Once a close has come to its end the pool is closed
   for good, so a look at its flag finds it closed, and what comes back is not kept. `closedLaw` is about
   programs whose steps find the pool like this: it counts the dials that are left to them.

   1. `Operation.obeys` — an operation has no dial left to begin with, but a prewarm, which never looks at the
      flag, has as many as connections to make, and none once it made one.
   2. `Program.Ran.dials_le` — what this says of the steps of a task that find the pool closed.
   3. `later_dials` — so of all operations that begin after a close has returned only a prewarm dials.
      `prewarm_dials_closed` is one that does. -/
namespace EvmClient

/-! ## Operations -/

/-- An operation on the pool, or on the client that owns it. -/
inductive Operation where
  | pool (call : PoolCall)
  | client (call : FacadeCall)

namespace Operation

/-- What an operation does; it ends with the connections that it leases out. -/
def program (config : Config) : Operation → Program (List Connection)
  | .pool call => call.program
  | .client call => do
    call.program config
    return []

/-- How many dials it may try if it begins with a closed pool. -/
def dialsLeft : Operation → Nat
  | .pool (.prewarm n) => n
  | .pool _ | .client _ => 0

end Operation

def Op.isDial : Op → Bool
  | .dial => true
  | _ => false

/-! ## The law of a closed pool -/

/-- How a step of a program goes on that finds the pool closed, with so many dials left: a look at the flag tells
it, what comes back is not kept, and there is no dial behind one that succeeded. -/
def Op.LeadsClosed (left : Nat) : (op : Op) → op.Answer → Nat → Prop
  | .isClosed, r, left' => r = true ∧ left' = left
  | .put _, r, left' => r = false ∧ left' = left
  | .dial, .ok _, left' => left' = 0
  | .dial, .error _, left' => left' = left - 1
  | _, _, left' => left' = left

def closedLaw : Law Nat where
  allows left op := op = .dial → 0 < left
  leads left op r left' := op.LeadsClosed left r left'

/-- Only a dial has to be left to a program. -/
theorem closedLaw_allows {op : Op} (hop : op.isDial = false) (left : Nat) : closedLaw.allows left op := by
  intro hdial
  rw [hdial] at hop
  cases hop

theorem acquire_closed : Lease.acquire.run.Obeys closedLaw (fun _ => (· = 0)) 0 := by
  refine .program (.perform (closedLaw_allows rfl 0) fun idle left hleft => ?_)
  cases hleft
  cases idle with
  | some c => exact rfl
  | none =>
    -- The flag is looked at before a dial, and it tells.
    refine .program (.perform (closedLaw_allows rfl 0) fun closed left hclosed => ?_)
    obtain ⟨rfl, rfl⟩ := hclosed
    exact rfl

theorem giveBack_closed (left : Nat) (c : Connection) : (Lease.giveBack c).Obeys closedLaw
    (fun kept left' => kept = false ∧ left' = left) left := by
  refine .bind (.perform (closedLaw_allows rfl left) fun kept left' hput => ?_)
  obtain ⟨rfl, rfl⟩ := hput
  refine .bind (.perform (closedLaw_allows rfl _) fun _ left' hdestroy => ?_)
  exact ⟨rfl, hdestroy⟩

/-- What a step takes of the dials that are left, and of the one connection that may be made. -/
theorem Op.LeadsClosed.spends {left left' : Nat} {op : Op} {r : op.Answer} (hleads : op.LeadsClosed left r left')
    (hallows : closedLaw.allows left op) :
    left' + (if op.isDial then 1 else 0) ≤ left ∧ (op.makes r).length + min left' 1 ≤ min left 1 := by
  cases op with
  | dial =>
    have hleft : 0 < left := hallows rfl
    cases r with
    | ok c =>
      obtain rfl : left' = 0 := hleads
      simp only [Op.isDial, Op.makes, List.length_singleton, if_true]
      omega
    | error e =>
      obtain rfl : left' = left - 1 := hleads
      simp only [Op.isDial, Op.makes, List.length_nil, if_true]
      omega
  | isClosed | put _ =>
    obtain ⟨-, rfl⟩ := hleads
    simp [Op.isDial, Op.makes]
  | _ =>
    obtain rfl := hleads
    simp [Op.isDial, Op.makes]

theorem closedLaw_lenient : closedLaw.Lenient where
  allows left op hop := by
    rintro rfl
    exact absurd hop id
  leads left op r left' hop hleads := by
    cases op with
    | isClosed | dial | put _ => exact absurd hop id
    | _ => exact hleads

theorem closedLaw_leases : closedLaw.Leases 0 fun _ => 0 where
  toLenient := closedLaw_lenient
  acquire := acquire_closed.mono fun r left hleft => by cases r <;> exact hleft
  giveBack c := (giveBack_closed 0 c).mono fun _ _ hback => hback.2

/-- A prewarm dials until a connection was made, which is destroyed. -/
theorem prewarm_closed (n : Nat) : (Lease.prewarm n).Obeys closedLaw (fun _ _ => True) n := by
  induction n with
  | zero => exact trivial
  | succ n ih =>
    refine .bind (.perform (fun _ => Nat.succ_pos n) fun r left hdial => ?_)
    cases r with
    | error e =>
      have hleft : left = n := hdial
      rw [hleft]
      exact ih
    | ok c =>
      refine .bind ((giveBack_closed left c).mono fun kept left' hback => ?_)
      obtain ⟨rfl, -⟩ := hback
      exact trivial

theorem destroyAll_closed (cs : List Connection) : (Lease.destroyAll cs).Obeys closedLaw (fun _ => (· = 0)) 0 := by
  induction cs with
  | nil => exact rfl
  | cons c cs ih =>
    refine .bind (.perform (closedLaw_allows rfl 0) fun _ left hdestroy => ?_)
    cases hdestroy
    exact ih

theorem close_closed : Lease.close.Obeys closedLaw (fun _ => (· = 0)) 0 := by
  refine .bind (.perform (closedLaw_allows rfl 0) fun first left hmark => ?_)
  cases hmark
  cases first with
  | false => exact rfl
  | true =>
    refine .bind (.perform (closedLaw_allows rfl 0) fun cs left hdrain => ?_)
    cases hdrain
    exact destroyAll_closed cs

/-- An operation that finds the pool closed tries no more dials than it has left. -/
theorem Operation.obeys (config : Config) (operation : Operation) :
    (operation.program config).Obeys closedLaw (fun _ _ => True) operation.dialsLeft := by
  cases operation with
  | client call => exact .bind ((call.obeys closedLaw_leases config).mono fun _ _ _ => trivial)
  | pool call =>
    cases call with
    | acquire =>
      refine .bind (acquire_closed.mono fun r _ _ => ?_)
      cases r <;> exact trivial
    | drop c | release c => exact .bind ((giveBack_closed 0 c).mono fun _ _ _ => trivial)
    | discard c => exact .bind (.perform (closedLaw_allows rfl 0) fun _ _ _ => trivial)
    | prewarm n => exact .bind ((prewarm_closed n).mono fun _ _ _ => trivial)
    | close => exact .bind (close_closed.mono fun _ _ _ => trivial)

/-! ## Steps that find the pool closed -/

section Steps
variable {α ν σ : Type} [Node ν] [CheckpointStore σ]

theorem perform_closed {w : World ν σ} (h : w.pool.closed = true) (left : Nat) (op : Op) :
    ∃ left', op.LeadsClosed left (w.perform op).1 left' := by
  have hpool := perform_pool w op
  cases op with
  | isClosed => exact ⟨left, hpool.1.trans h, rfl⟩
  | put c =>
    rcases hpool.put_cases with ⟨-, -, hopen, -⟩ | ⟨hkept, -⟩
    · rw [h] at hopen
      cases hopen
    · exact ⟨left, hkept, rfl⟩
  | dial =>
    cases hr : (w.perform .dial).1 with
    | error e => exact ⟨left - 1, rfl⟩
    | ok c => exact ⟨0, rfl⟩
  | _ => exact ⟨left, rfl⟩

/-- The connections that steps made. -/
def madeBy (es : List (TaskStep ν σ)) : List Connection := es.flatMap fun e => e.op.makes e.answer

/-- Such steps try no more dials than the program has left, and only the last of them makes a connection. -/
theorem Program.Ran.dials_le {p p' : Program α} {es : List (TaskStep ν σ)} (h : p.Ran es p')
    {post : α → Nat → Prop} {left : Nat} (hp : p.Obeys closedLaw post left)
    (hclosed : ∀ e ∈ es, e.found.pool.closed = true) :
    es.countP (·.op.isDial) ≤ left ∧ (madeBy es).length ≤ min left 1 := by
  induction h generalizing left with
  | nil p => exact ⟨Nat.zero_le _, Nat.zero_le _⟩
  | @cons e next es p' _ ih =>
    obtain ⟨hallows, hnext⟩ := hp
    obtain ⟨left', hleads⟩ := perform_closed (hclosed e List.mem_cons_self) left e.op
    obtain ⟨hdials, hmade⟩ := ih (hnext e.answer left' hleads) fun e' he' => hclosed e' (List.mem_cons_of_mem _ he')
    have hspent := hleads.spends hallows
    have hmadeBy : madeBy (e :: es) = e.op.makes e.answer ++ madeBy es := List.flatMap_cons
    rw [List.countP_cons, hmadeBy, List.length_append]
    constructor
    · refine Nat.le_trans (Nat.add_le_add_right hdials _) ?_
      exact hspent.1
    · refine Nat.le_trans (Nat.add_le_add_left hmade _) ?_
      exact hspent.2

/-! ## Runs over the pool -/

namespace TaskSystem
variable {s : TaskSystem α ν σ}

/-- A move by which nothing but the tasks touches the pool. -/
def moveOverPool (s : TaskSystem α ν σ) : TaskMove ν σ → TaskSystem α ν σ
  | .step task => s.move (.step task)
  | .outside w => s.move (.outside { w with pool := s.world.pool })

def runOverPool (s : TaskSystem α ν σ) (moves : List (TaskMove ν σ)) : TaskSystem α ν σ := moves.foldl moveOverPool s

theorem runOverPool_is_run (s : TaskSystem α ν σ) (moves : List (TaskMove ν σ)) :
    ∃ moves', s.runOverPool moves = s.run moves' := by
  induction moves generalizing s with
  | nil => exact ⟨[], rfl⟩
  | cons m moves ih =>
    obtain ⟨rest, hrest⟩ := ih (s.moveOverPool m)
    cases m with
    | step task => exact ⟨.step task :: rest, hrest⟩
    | outside w => exact ⟨.outside { w with pool := s.world.pool } :: rest, hrest⟩

/-- A move is a step of a task, or leaves the pool and the log. -/
theorem moveOverPool_cases (s : TaskSystem α ν σ) (m : TaskMove ν σ) :
    ((s.moveOverPool m).log = s.log ∧ (s.moveOverPool m).world.pool = s.world.pool) ∨
      ∃ task op, (s.moveOverPool m).log = s.log ++ [⟨task, s.world, op⟩] ∧
        op.PoolLeads s.world.pool (s.world.perform op).1 (s.moveOverPool m).world.pool := by
  cases m with
  | outside w => exact .inl ⟨rfl, rfl⟩
  | step task =>
    simp only [moveOverPool, move]
    split
    · exact .inl ⟨rfl, rfl⟩
    · rename_i op next hrest
      split
      · exact .inr ⟨task, op, rfl, perform_pool s.world op⟩
      · exact .inl ⟨rfl, rfl⟩

/-- Once it is closed the pool is found closed by each step. -/
theorem runOverPool_closed (hs : s.world.pool.closed = true) (moves : List (TaskMove ν σ)) :
    ∃ es, (s.runOverPool moves).log = s.log ++ es ∧ ∀ e ∈ es, e.found.pool.closed = true := by
  induction moves generalizing s with
  | nil => exact ⟨[], (List.append_nil _).symm, fun e he => by cases he⟩
  | cons m moves ih =>
    rcases moveOverPool_cases s m with ⟨hlog, hpool⟩ | ⟨task, op, hlog, hpool⟩
    · obtain ⟨es, hes, hclosed⟩ := ih (hpool ▸ hs)
      exact ⟨es, hes.trans (by rw [hlog]), hclosed⟩
    · obtain ⟨es, hes, hclosed⟩ := ih (hpool.stays_closed hs)
      refine ⟨⟨task, s.world, op⟩ :: es, hes.trans (by rw [hlog, List.append_assoc, List.singleton_append]), ?_⟩
      intro e he
      rcases List.mem_cons.1 he with rfl | he
      · exact hs
      · exact hclosed e he

/-- A step that marked the pool as closed was the end of it. -/
theorem runOverPool_marked (hs : ∀ e ∈ s.log, e.op = .markClosed → s.world.pool.closed = true)
    (moves : List (TaskMove ν σ)) :
    ∀ e ∈ (s.runOverPool moves).log, e.op = .markClosed → (s.runOverPool moves).world.pool.closed = true := by
  induction moves generalizing s with
  | nil => exact hs
  | cons m moves ih =>
    refine ih (s := s.moveOverPool m) ?_
    intro e he hmark
    rcases moveOverPool_cases s m with ⟨hlog, hpool⟩ | ⟨task, op, hlog, hpool⟩
    · rw [hpool]
      exact hs e (hlog ▸ he) hmark
    · rw [hlog] at he
      rcases List.mem_append.1 he with he | he
      · exact hpool.stays_closed (hs e he hmark)
      · obtain rfl := List.mem_singleton.1 he
        obtain rfl : op = .markClosed := hmark
        have hmarked : (s.moveOverPool m).world.pool = s.world.pool.markClosed.2 := congrArg Prod.snd hpool
        rw [hmarked]
        rfl

end TaskSystem

/-- A program that came to its end has done its first step. -/
theorem Program.Ran.first {op : Op} {next : op.Answer → Program α} {p' : Program α} {es : List (TaskStep ν σ)}
    (h : (Program.step op next).Ran es p') (hdone : p'.isDone = true) : ∃ e ∈ es, e.op = op := by
  cases h with
  | nil => cases hdone
  | @cons e _ _ _ _ => exact ⟨e, List.mem_cons_self, rfl⟩

/-- Of the operations that begin after a close has come to its end only a prewarm dials, and no more than once with
success. -/
theorem later_dials (config : Config) (operations : Nat → Operation) (w : World ν σ)
    (before after : List (TaskMove ν σ)) :
    let s := (TaskSystem.initial (fun task => (operations task).program config) w).runOverPool before
    (∃ closer, operations closer = .pool .close ∧ s.Finished closer) →
      ∀ task, s.stepsOf task = [] →
        let steps := (s.runOverPool after).stepsOf task
        steps.countP (·.op.isDial) ≤ (operations task).dialsLeft ∧
          (madeBy steps).length ≤ min (operations task).dialsLeft 1 := by
  rintro s ⟨closer, hcloser, hfinished⟩ task hlater
  have htraced (moves : List (TaskMove ν σ)) : TaskSystem.Traced (fun task => (operations task).program config)
      w.store ((TaskSystem.initial (fun task => (operations task).program config) w).runOverPool moves) := by
    obtain ⟨moves', hmoves'⟩ := TaskSystem.runOverPool_is_run
      (TaskSystem.initial (fun task => (operations task).program config) w) moves
    rw [hmoves']
    exact TaskSystem.run_traced _ w moves'
  have hclosed : s.world.pool.closed = true := by
    have hran := (htraced before).ran closer
    simp only [hcloser] at hran
    obtain ⟨e, he, hmark⟩ := Program.Ran.first hran hfinished
    exact TaskSystem.runOverPool_marked (fun e he => by cases he) before e (List.mem_filter.1 he).1 hmark
  obtain ⟨es, hlog, hes⟩ := TaskSystem.runOverPool_closed hclosed after
  have hsteps : (s.runOverPool after).stepsOf task = es.filter (·.task = task) := by
    show (s.runOverPool after).log.filter _ = _
    rw [hlog, List.filter_append]
    exact congrArg (· ++ _) hlater
  have hran : ((operations task).program config).Ran ((s.runOverPool after).stepsOf task)
      ((s.runOverPool after).rest task) := by
    have hall := (htraced (before ++ after)).ran task
    rwa [TaskSystem.runOverPool, List.foldl_append] at hall
  refine hran.dials_le ((operations task).obeys config) fun e he => hes e ?_
  rw [hsteps] at he
  exact (List.mem_filter.1 he).1

end Steps

/-! ## A close and then a prewarm -/

/-- The first task closes the pool; all others prewarm it. -/
def closeThenPrewarm (task : Nat) : Operation := .pool (if task = 0 then .close else .prewarm 1)

/-- A pool for one connection. -/
def poolOfOne : World SimulatedNode MemoryStore := .initial .initial 1 .empty

/-- A close that has come to its end. -/
def closedRun : TaskSystem (List Connection) SimulatedNode MemoryStore :=
  (TaskSystem.initial (fun task => (closeThenPrewarm task).program .standard) poolOfOne).runOverPool [.step 0, .step 0]

theorem later_dials_prewarm :
    let steps := (closedRun.runOverPool [.step 1, .step 1, .step 1]).stepsOf 1
    ((∃ closer, closeThenPrewarm closer = .pool .close ∧ closedRun.Finished closer) ∧ closedRun.stepsOf 1 = []) ∧
      steps.countP (·.op.isDial) ≤ 1 ∧ (madeBy steps).length ≤ 1 := by
  have hclosed : ∃ closer, closeThenPrewarm closer = .pool .close ∧ closedRun.Finished closer := ⟨0, rfl, rfl⟩
  refine ⟨⟨hclosed, rfl⟩, ?_⟩
  exact later_dials .standard closeThenPrewarm poolOfOne [.step 0, .step 0] _ hclosed 1 rfl

/-- A prewarm that begins after it dials, and its connection is destroyed at once. -/
theorem prewarm_dials_closed :
    let steps := (closedRun.runOverPool [.step 1, .step 1, .step 1]).stepsOf 1
    closeThenPrewarm 0 = .pool .close ∧ closedRun.Finished 0 ∧ closedRun.stepsOf 1 = [] ∧
      steps.countP (·.op.isDial) = 1 ∧ madeBy steps = [0] ∧ steps.flatMap (·.op.destroys) = [0] := by
  refine ⟨rfl, rfl, rfl, ?_⟩
  decide +kernel

end EvmClient
