import EvmClient.Node.Simulated
import EvmClient.Proofs.Actions
import EvmClient.Proofs.PoolCalls

/-
A pool under the interleaved calls of any number of tasks.

   A `PoolSystem` is a world with the tasks that run calls of its pool, the leases that tasks gave out, and a
   record of the connections that were made and destroyed. One move begins a call, lets one task do its next
   step, or changes anything in the world but the pool. Connections are told apart by their numbers, so a dial
   or a release counts only if its connection is a new one. No lock is held between two steps: whatever the
   client's locks admit is among these moves.

   1. `Sound.move` — each move keeps the invariant.
   2. `pool_safe` — what holds after any moves: the queue is bounded, it stays empty once a close has emptied
      it, and each connection is in one place and destroyed once at most. -/
namespace EvmClient

/-! ## The system -/

/-- A task: what is left of its call, and what it has to do with the pool. -/
structure PoolTask where
  rest : Program (List Connection)
  holding : Holding

structure PoolSystem (ν σ : Type) where
  world : World ν σ
  tasks : List PoolTask
  leases : List Connection
  /-- The connections that were dialed or released from outside. -/
  made : List Connection
  destroyed : List Connection
  /-- Whether a close has emptied the queue. -/
  drained : Bool

inductive PoolMove (ν σ : Type) where
  | call (c : PoolCall)
  /-- The task at an index does its next step, or ends. -/
  | step (index : Nat)
  /-- All but the pool becomes as in this world. -/
  | outside (w : World ν σ)

namespace PoolSystem
variable {ν σ : Type}

/-- A world with a new pool. -/
def initial (size : Nat) (w : World ν σ) : PoolSystem ν σ := ⟨{ w with pool := .ofSize size }, [], [], [], [], false⟩

/-- The connections in the hands of tasks. -/
def hands (s : PoolSystem ν σ) : List Connection := s.tasks.flatMap (·.holding.hand)

/-- Begins a call. Only a lease is dropped or discarded, and only a new connection is released. -/
def begin (s : PoolSystem ν σ) (call : PoolCall) : PoolSystem ν σ :=
  let tasks := ⟨call.program, ⟨call.hand, false⟩⟩ :: s.tasks
  match call with
  | .acquire | .prewarm _ | .close => { s with tasks }
  | .drop c | .discard c => if c ∈ s.leases then { s with tasks, leases := s.leases.erase c } else s
  | .release c => if c ∈ s.made then s else { s with tasks, made := c :: s.made }

variable [Node ν] [CheckpointStore σ]

/-- The next step of a task. A task that has ended goes, and its hand with it, but for what it leases out. -/
def advance (s : PoolSystem ν σ) (index : Nat) : PoolSystem ν σ :=
  match s.tasks[index]? with
  | none => s
  | some ⟨.done leases, _⟩ => { s with tasks := s.tasks.eraseIdx index, leases := leases ++ s.leases }
  | some ⟨.step op next, k⟩ =>
    let (r, world) := s.world.perform op
    if (op.makes r).any (· ∈ s.made) then s
    else
      { world
        tasks := s.tasks.set index ⟨next r, k.after op r⟩
        leases := s.leases
        made := op.makes r ++ s.made
        destroyed := op.destroys ++ s.destroyed
        drained := s.drained || op.drains }

/-- The system after a step of the task between these. -/
def stepped (s : PoolSystem ν σ) (front back : List PoolTask) (op : Op)
    (next : op.Answer → Program (List Connection)) (k : Holding) : PoolSystem ν σ :=
  let (r, world) := s.world.perform op
  { world
    tasks := front ++ ⟨next r, k.after op r⟩ :: back
    leases := s.leases
    made := op.makes r ++ s.made
    destroyed := op.destroys ++ s.destroyed
    drained := s.drained || op.drains }

/-- A task ends, or does its next step, which makes no connection twice. -/
theorem advance_cases (s : PoolSystem ν σ) (index : Nat) :
    s.advance index = s ∨
      (∃ front back leases k, s.tasks = front ++ ⟨.done leases, k⟩ :: back ∧
        s.advance index = { s with tasks := front ++ back, leases := leases ++ s.leases }) ∨
      ∃ front back op next k, s.tasks = front ++ ⟨.step op next, k⟩ :: back ∧
        (∀ c ∈ op.makes (s.world.perform op).1, c ∉ s.made) ∧ s.advance index = s.stepped front back op next k := by
  unfold advance
  cases htask : s.tasks[index]? with
  | none => exact .inl rfl
  | some task =>
    obtain ⟨hindex, hget⟩ := List.getElem?_eq_some_iff.1 htask
    have htasks : s.tasks = s.tasks.take index ++ task :: s.tasks.drop (index + 1) := by
      rw [← hget, ← List.drop_eq_getElem_cons hindex, List.take_append_drop]
    obtain ⟨rest, k⟩ := task
    cases rest with
    | done leases =>
      refine .inr (.inl ⟨_, _, leases, k, htasks, ?_⟩)
      dsimp only
      rw [List.eraseIdx_eq_take_drop_succ]
    | step op next =>
      dsimp only
      split
      · exact .inl rfl
      · rename_i hnew
        refine .inr (.inr ⟨_, _, op, next, k, htasks, fun c hc hmade => hnew ?_, ?_⟩)
        · exact List.any_eq_true.2 ⟨c, hc, decide_eq_true hmade⟩
        · rw [stepped, List.set_eq_take_append_cons_drop, if_pos hindex]

def move (s : PoolSystem ν σ) : PoolMove ν σ → PoolSystem ν σ
  | .call c => s.begin c
  | .step index => s.advance index
  | .outside w => { s with world := { w with pool := s.world.pool } }

def run (s : PoolSystem ν σ) (moves : List (PoolMove ν σ)) : PoolSystem ν σ := moves.foldl move s

end PoolSystem

section Safety
variable {ν σ : Type}

/-- What a step makes of a world's pool. -/
theorem perform_pool [Node ν] [CheckpointStore σ] (w : World ν σ) (op : Op) :
    op.PoolLeads w.pool (w.perform op).1 (w.perform op).2.pool := by
  cases op with
  | pause ctx span =>
    obtain ⟨_, _, _, _, hpause⟩ := World.pause_frame ctx span w
    show (w.pause ctx span).2.pool = w.pool
    rw [hpause]
  | isClosed => exact ⟨rfl, rfl⟩
  | _ => rfl

theorem mem_middle {α : Type} {front back : List α} {x a : α} : x ∈ front ++ a :: back ↔ x = a ∨ x ∈ front ++ back := by
  rw [List.mem_append, List.mem_cons, List.mem_append]
  exact or_left_comm

/-! ## The invariant -/

structure Sound (size : Nat) (s : PoolSystem ν σ) : Prop where
  obeys : ∀ task ∈ s.tasks, task.rest.Obeys poolLaw (fun leases => (· = ⟨leases, false⟩)) task.holding
  capacity : s.world.pool.capacity = (Pool.ofSize size).capacity
  bounded : s.world.pool.idle.length ≤ s.world.pool.capacity
  closing : ∀ task ∈ s.tasks, task.holding.closing = true → s.world.pool.closed = true
  pending : s.world.pool.closed = true → s.drained = true ∨ ∃ task ∈ s.tasks, task.holding.closing = true
  drained : s.drained = true → s.world.pool.closed = true ∧ s.world.pool.idle = []
  account : ∀ c, s.world.pool.idle.count c + s.leases.count c + s.hands.count c + s.destroyed.count c = s.made.count c
  unique : s.made.Nodup

namespace Sound
variable {size : Nat} {s : PoolSystem ν σ}

theorem initial (size : Nat) (w : World ν σ) : Sound size (PoolSystem.initial size w) where
  obeys _ h := by cases h
  capacity := rfl
  bounded := Nat.zero_le _
  closing _ h := by cases h
  pending h := by cases h
  drained h := by cases h
  account _ := rfl
  unique := .nil

/-! ## Moves -/

/-- A task enters with connections that were leased, or are new. -/
theorem enter (h : Sound size s) {program : Program (List Connection)} {hand leases made : List Connection}
    (hprogram : program.Obeys poolLaw (fun leases => (· = ⟨leases, false⟩)) ⟨hand, false⟩) (hunique : made.Nodup)
    (haccount : ∀ c, hand.count c + leases.count c + s.made.count c = s.leases.count c + made.count c) :
    Sound size { s with tasks := ⟨program, ⟨hand, false⟩⟩ :: s.tasks, leases, made } where
  obeys task htask := by
    rcases List.mem_cons.1 htask with rfl | htask
    · exact hprogram
    · exact h.obeys task htask
  capacity := h.capacity
  bounded := h.bounded
  closing task htask hclosing := by
    rcases List.mem_cons.1 htask with rfl | htask
    · cases hclosing
    · exact h.closing task htask hclosing
  pending hclosed := by
    rcases h.pending hclosed with hdrained | ⟨task, htask, hclosing⟩
    · exact .inl hdrained
    · exact .inr ⟨task, List.mem_cons_of_mem _ htask, hclosing⟩
  drained := h.drained
  account c := by
    have hold := h.account c
    have hnew := haccount c
    simp only [PoolSystem.hands, List.flatMap_cons, List.count_append] at hold ⊢
    omega
  unique := hunique

theorem call (h : Sound size s) (call : PoolCall) {leases made : List Connection} (hunique : made.Nodup)
    (haccount : ∀ c, call.hand.count c + leases.count c + s.made.count c = s.leases.count c + made.count c) :
    Sound size { s with tasks := ⟨call.program, ⟨call.hand, false⟩⟩ :: s.tasks, leases, made } :=
  h.enter call.obeys hunique haccount

theorem begin (h : Sound size s) (call : PoolCall) : Sound size (s.begin call) := by
  have hlease {a : Connection} (ha : a ∈ s.leases) (c : Connection) :
      [a].count c + (s.leases.erase a).count c + s.made.count c = s.leases.count c + s.made.count c := by
    have herase := count_erase_mem ha c
    omega
  cases call with
  | acquire => exact h.call .acquire h.unique fun c => by simp [PoolCall.hand]
  | prewarm n => exact h.call (.prewarm n) h.unique fun c => by simp [PoolCall.hand]
  | close => exact h.call .close h.unique fun c => by simp [PoolCall.hand]
  | drop a =>
    by_cases ha : a ∈ s.leases
    · rw [PoolSystem.begin, if_pos ha]
      exact h.call (.drop a) h.unique (hlease ha)
    · rw [PoolSystem.begin, if_neg ha]
      exact h
  | discard a =>
    by_cases ha : a ∈ s.leases
    · rw [PoolSystem.begin, if_pos ha]
      exact h.call (.discard a) h.unique (hlease ha)
    · rw [PoolSystem.begin, if_neg ha]
      exact h
  | release a =>
    by_cases ha : a ∈ s.made
    · rw [PoolSystem.begin, if_pos ha]
      exact h
    · rw [PoolSystem.begin, if_neg ha]
      refine h.call (.release a) (List.nodup_cons.2 ⟨ha, h.unique⟩) fun c => ?_
      simp only [PoolCall.hand, List.count_cons, List.count_nil]
      omega

/-- A task that has ended leaves its leases behind. -/
theorem finish (h : Sound size s) {front back : List PoolTask} {leases : List Connection} {k : Holding}
    (htasks : s.tasks = front ++ ⟨.done leases, k⟩ :: back) :
    Sound size { s with tasks := front ++ back, leases := leases ++ s.leases } := by
  have hk : k = ⟨leases, false⟩ := h.obeys ⟨.done leases, k⟩ (htasks ▸ List.mem_append_cons_self)
  have hrest : ∀ task ∈ front ++ back, task ∈ s.tasks := by
    intro task htask
    rw [htasks]
    exact mem_middle.2 (.inr htask)
  subst hk
  refine ⟨fun task htask => h.obeys task (hrest task htask), h.capacity, h.bounded,
    fun task htask => h.closing task (hrest task htask), fun hclosed => ?_, h.drained, fun c => ?_, h.unique⟩
  · -- The task that is to empty the queue has not ended.
    rcases h.pending hclosed with hdrained | ⟨task, htask, hclosing⟩
    · exact .inl hdrained
    · rw [htasks] at htask
      rcases mem_middle.1 htask with rfl | htask
      · cases hclosing
      · exact .inr ⟨task, htask, hclosing⟩
  · have hold := h.account c
    simp only [PoolSystem.hands, htasks, List.flatMap_append, List.flatMap_cons, List.count_append] at hold ⊢
    omega

section Step
variable {front back : List PoolTask} {op : Op} {next : op.Answer → Program (List Connection)} {k : Holding}
  {r : op.Answer} {p : Pool}

/-- Whoever closed the pool is to empty the queue, unless this step does. -/
theorem pending_step (h : Sound size s) (htasks : s.tasks = front ++ ⟨.step op next, k⟩ :: back)
    (hpool : op.PoolLeads s.world.pool r p) (hclosed : p.closed = true) :
    (s.drained || op.drains) = true ∨
      ∃ task ∈ front ++ ⟨next r, k.after op r⟩ :: back, task.holding.closing = true := by
  rcases hpool.closes k hclosed with hbefore | hclosing
  · rcases h.pending hbefore with hdrained | ⟨task, htask, hclosing⟩
    · exact .inl (by rw [hdrained, Bool.true_or])
    · rw [htasks] at htask
      rcases mem_middle.1 htask with rfl | htask
      · -- The step was this task's own, and it has either emptied the queue by it or not yet.
        rcases Holding.closing_after op r hclosing with hdrains | hclosing
        · exact .inl (by rw [hdrains, Bool.or_true])
        · exact .inr ⟨_, List.mem_append_cons_self, hclosing⟩
      · exact .inr ⟨task, mem_middle.2 (.inr htask), hclosing⟩
  · exact .inr ⟨_, List.mem_append_cons_self, hclosing⟩

/-- A queue that was emptied stays so, and a step that empties it does so after the pool was closed. -/
theorem drained_step (h : Sound size s) (htask : (⟨.step op next, k⟩ : PoolTask) ∈ s.tasks)
    (hpool : op.PoolLeads s.world.pool r p) (hdrained : (s.drained || op.drains) = true) :
    p.closed = true ∧ p.idle = [] := by
  rcases Bool.or_eq_true_iff.1 hdrained with hbefore | hdrains
  · obtain ⟨hclosed, hidle⟩ := h.drained hbefore
    exact ⟨hpool.stays_closed hclosed, hpool.stays_empty hclosed hidle⟩
  · have hclosing : k.closing = true := by
      have hallows : k.Allows op := (h.obeys _ htask).1
      cases op with
      | drain => exact hallows
      | _ => cases hdrains
    exact ⟨hpool.stays_closed (h.closing _ htask hclosing), hpool.emptied hdrains⟩

/-- A step of a task moves connections as its law has it, and makes new ones only. -/
theorem step (h : Sound size s) (htasks : s.tasks = front ++ ⟨.step op next, k⟩ :: back) {world : World ν σ}
    (hpool : op.PoolLeads s.world.pool r world.pool) (hnew : ∀ c ∈ op.makes r, c ∉ s.made) :
    Sound size
      { world
        tasks := front ++ ⟨next r, k.after op r⟩ :: back
        leases := s.leases
        made := op.makes r ++ s.made
        destroyed := op.destroys ++ s.destroyed
        drained := s.drained || op.drains } := by
  have hmem : (⟨.step op next, k⟩ : PoolTask) ∈ s.tasks := htasks ▸ List.mem_append_cons_self
  obtain ⟨hallows, hnext⟩ := h.obeys _ hmem
  have hrest : ∀ task ∈ front ++ back, task ∈ s.tasks := by
    intro task htask
    rw [htasks]
    exact mem_middle.2 (.inr htask)
  obtain ⟨hcapacity, hbounded⟩ := hpool.bounded
  refine ⟨?_, ?_, ?_, ?_, h.pending_step htasks hpool, h.drained_step hmem hpool, ?_, ?_⟩
  · intro task htask
    rcases mem_middle.1 htask with rfl | htask
    · exact hnext r _ rfl
    · exact h.obeys task (hrest task htask)
  · exact hcapacity.trans h.capacity
  · rw [hcapacity]
    exact hbounded h.bounded
  · intro task htask hclosing
    rcases mem_middle.1 htask with rfl | htask
    · rcases hpool.closing hclosing with hbefore | hafter
      · exact hpool.stays_closed (h.closing _ hmem hbefore)
      · exact hafter
    · exact hpool.stays_closed (h.closing task (hrest task htask) hclosing)
  · intro c
    have hold := h.account c
    have hmoved := Holding.after_conserves (k := k) hallows hpool c
    simp only [PoolSystem.hands, htasks, List.flatMap_append, List.flatMap_cons, List.count_append] at hold ⊢
    omega
  · refine List.nodup_append.2 ⟨op.makes_nodup r, h.unique, ?_⟩
    intro a ha b hb hab
    exact hnew a ha (hab ▸ hb)

end Step

variable [Node ν] [CheckpointStore σ]

theorem advance (h : Sound size s) (index : Nat) : Sound size (s.advance index) := by
  rcases s.advance_cases index with heq | ⟨_, _, _, _, htasks, heq⟩ | ⟨_, _, op, _, _, htasks, hnew, heq⟩
  · rw [heq]
    exact h
  · rw [heq]
    exact h.finish htasks
  · rw [heq]
    exact h.step htasks (perform_pool s.world op) hnew

theorem move (h : Sound size s) (m : PoolMove ν σ) : Sound size (s.move m) := by
  cases m with
  | call c => exact h.begin c
  | step index => exact h.advance index
  | outside w => exact ⟨h.obeys, h.capacity, h.bounded, h.closing, h.pending, h.drained, h.account, h.unique⟩

theorem run (h : Sound size s) (moves : List (PoolMove ν σ)) : Sound size (s.run moves) := by
  induction moves generalizing s with
  | nil => exact h
  | cons m moves ih => exact ih (h.move m)

end Sound

/-! ## Runs -/

variable [Node ν] [CheckpointStore σ]

theorem move_drained {s : PoolSystem ν σ} (hs : s.drained = true) (m : PoolMove ν σ) : (s.move m).drained = true := by
  cases m with
  | outside w => exact hs
  | call c =>
    cases c with
    | drop a | discard a | release a =>
      simp only [PoolSystem.move, PoolSystem.begin]
      split <;> exact hs
    | _ => exact hs
  | step index =>
    show (s.advance index).drained = true
    rcases s.advance_cases index with heq | ⟨_, _, _, _, _, heq⟩ | ⟨_, _, _, _, _, _, _, heq⟩
    · rw [heq]
      exact hs
    · rw [heq]
      exact hs
    · rw [heq]
      exact Bool.or_eq_true_iff.2 (.inl hs)

theorem run_drained {s : PoolSystem ν σ} (hs : s.drained = true) (moves : List (PoolMove ν σ)) :
    (s.run moves).drained = true := by
  induction moves generalizing s with
  | nil => exact hs
  | cons m moves ih => exact ih (move_drained hs m)

/-- Whatever calls run in whatever order: the queue holds no more connections than the pool's capacity. Once a
close has emptied it, it stays empty. Each connection that was made is idle, or held by one lease or one task,
or destroyed, and it is in one such place only. The queue of a pool that was marked as closed was emptied too,
or the task that marked it is about to do so; once it was, and nothing is held, each connection was destroyed
once. -/
theorem pool_safe (size : Nat) (w : World ν σ) (moves : List (PoolMove ν σ)) :
    let s := (PoolSystem.initial size w).run moves
    s.world.pool.idle.length ≤ (Pool.ofSize size).capacity ∧
    (s.drained = true → ∀ more, (s.run more).world.pool.idle = []) ∧
    (∀ c, s.world.pool.idle.count c + s.leases.count c + s.hands.count c + s.destroyed.count c =
      if c ∈ s.made then 1 else 0) ∧
    (s.world.pool.closed = true → s.drained = true ∨ ∃ task ∈ s.tasks, task.holding.closing = true) ∧
    (s.drained = true → s.leases = [] → s.hands = [] → ∀ c ∈ s.made, s.destroyed.count c = 1) := by
  intro s
  have hs : Sound size s := (Sound.initial size w).run moves
  have hplace : ∀ c, s.world.pool.idle.count c + s.leases.count c + s.hands.count c + s.destroyed.count c =
      if c ∈ s.made then 1 else 0 := by
    intro c
    rw [hs.account c]
    exact hs.unique.count
  refine ⟨?_, ?_, hplace, hs.pending, ?_⟩
  · have hbounded := hs.bounded
    rw [hs.capacity] at hbounded
    exact hbounded
  · intro hdrained more
    exact ((hs.run more).drained (run_drained hdrained more)).2
  · intro hdrained hleases hhands c hc
    have hcount := hplace c
    rw [(hs.drained hdrained).2, hleases, hhands, if_pos hc] at hcount
    simpa using hcount

/-- A dial that began before a close makes a connection after it, and the connection is destroyed in the end. -/
example :
    let w : World SimulatedNode MemoryStore := .initial .initial 0 .empty
    let acquiring : List (PoolMove SimulatedNode MemoryStore) := [.call .acquire, .step 0, .step 0]
    let closing : List (PoolMove SimulatedNode MemoryStore) := [.call .close, .step 0, .step 0, .step 0]
    let s := (PoolSystem.initial 1 w).run (acquiring ++ closing ++ [.step 0, .step 0])
    s.leases = [0] ∧ s.world.pool.closed = true ∧
      (s.run [.call (.drop 0), .step 0, .step 0, .step 0]).destroyed = [0] := by decide +kernel

end Safety
end EvmClient
