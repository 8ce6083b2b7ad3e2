import EvmClient.Proofs.Interleaving
import EvmClient.Proofs.LeaseReturn

/-
How many connections the calls of a client need.

   A call that finds an open pool holds one connection at a time, which it makes only if none is idle. Its load is
   one from the step on that finds none until it has given the connection back. With what is idle the loads of all
   calls are never more than the calls that run at once: none is idle where a call finds none. So there is always
   room for what comes back, if the pool has room for as many connections as there are calls.

   1. `LeasePhase.welcomed`, `LeasePhase.load_after` — a step finds room, and keeps the bound.
   2. `Light.serve` — so does a run in which no more than so many calls run at once.
   3. `calls_return` — what becomes of the connections of a client, whatever its calls end with. -/
namespace EvmClient

/-! ## Calls that find an open pool -/

/-- Where a call stands with its connection: it has none, it found no idle one, or it holds one. -/
inductive LeasePhase where
  | free
  | missed
  | holding (c : Connection)

namespace LeasePhase

def hand : LeasePhase → List Connection
  | .holding c => [c]
  | .free | .missed => []

/-- A call counts if it holds a connection or is about to make one. -/
def load : LeasePhase → Nat
  | .free => 0
  | .missed | .holding _ => 1

def after (phase : LeasePhase) : (op : Op) → op.Answer → LeasePhase
  | .take, some c => .holding c
  | .take, none => .missed
  | .dial, .ok c => .holding c
  | .dial, .error _ => .free
  | .put _, _ => .free
  | _, _ => phase

def Allows : LeasePhase → Op → Prop
  | .free, .take => True
  | .missed, .isClosed | .missed, .dial => True
  | .holding c, .put c' => c' = c
  | _, op => op.Aside

end LeasePhase

/-- An open pool with room answers so. -/
def Op.Welcomed : (op : Op) → op.Answer → Prop
  | .isClosed, r => r = false
  | .put _, r => r = true
  | _, _ => True

/-- The law of a call that finds an open pool, with room for what it gives back. -/
def openLaw : Law LeasePhase where
  allows := LeasePhase.Allows
  leads phase op r phase' := op.Welcomed r ∧ phase' = phase.after op r

theorem openLaw_leases : openLaw.Leases .free .holding where
  allows phase op hop := by
    cases op with
    | take | isClosed | dial | put _ | destroy _ | markClosed | drain => exact absurd hop id
    | _ => cases phase <;> exact trivial
  leads phase op r phase' hop hleads := by
    cases op with
    | take | isClosed | dial | put _ | destroy _ | markClosed | drain => exact absurd hop id
    | _ => exact hleads.2
  acquire := by
    refine .program (.perform trivial fun idle phase htake => ?_)
    obtain ⟨-, rfl⟩ := htake
    cases idle with
    | some c => exact rfl
    | none =>
      refine .program (.perform trivial fun closed phase hopen => ?_)
      obtain ⟨rfl, rfl⟩ := hopen
      refine .perform trivial fun r phase hdial => ?_
      obtain ⟨-, rfl⟩ := hdial
      cases r <;> exact rfl
  giveBack c := by
    refine .bind (.perform rfl fun kept phase hput => ?_)
    obtain ⟨rfl, rfl⟩ := hput
    exact rfl

section Phases
variable {phase : LeasePhase} {op : Op} {r : op.Answer} {p p' : Pool} {n rest : Nat}

/-- An open pool in which so many connections have room keeps what comes back. -/
theorem LeasePhase.welcomed (hop : phase.Allows op) (hpool : op.PoolLeads p r p') (hopen : p.closed = false)
    (hroom : n ≤ p.capacity) (hload : p.idle.length + (phase.load + rest) ≤ n) : op.Welcomed r := by
  cases op with
  | isClosed => exact hpool.1.trans hopen
  | put c =>
    cases phase with
    | free | missed => exact absurd hop id
    | holding c' =>
      have hput : (r, p') = p.put c := hpool
      have hspace : p.idle.length < p.capacity := by
        simp only [LeasePhase.load] at hload
        omega
      have haccepts : p.accepts = true := by simp [Pool.accepts, hopen, hspace]
      rw [Pool.put, if_pos haccepts] at hput
      exact congrArg Prod.fst hput
  | _ => exact trivial

theorem LeasePhase.stays_open (hop : phase.Allows op) (hpool : op.PoolLeads p r p') : p'.closed = p.closed := by
  cases op with
  | markClosed => cases phase <;> exact absurd hop id
  | isClosed => rw [hpool.2]
  | put c => rcases hpool.put_cases with ⟨-, rfl, -, -⟩ | ⟨-, rfl⟩ <;> rfl
  | take | drain =>
    cases hpool
    rfl
  | _ => rw [show p' = p from hpool]

/-- The hand of a call is what it stands with. -/
theorem LeasePhase.hand_after (hop : phase.Allows op) (hwelcome : op.Welcomed r) :
    Holding.after ⟨phase.hand, false⟩ op r = ⟨(phase.after op r).hand, false⟩ := by
  cases op with
  | take =>
    cases phase with
    | free => cases r <;> rfl
    | missed | holding _ => exact absurd hop id
  | dial =>
    cases phase with
    | missed => cases r <;> rfl
    | free | holding _ => exact absurd hop id
  | put c =>
    cases phase with
    | free | missed => exact absurd hop id
    | holding c' =>
      obtain rfl : c = c' := hop
      obtain rfl : r = true := hwelcome
      simp [Holding.after, LeasePhase.after, LeasePhase.hand]
  | destroy _ | markClosed | drain => cases phase <;> exact absurd hop id
  | isClosed =>
    obtain rfl : r = false := hwelcome
    rfl
  | _ => rfl

/-- A call that finds no idle connection makes one, which is no more than one for each call. -/
theorem LeasePhase.load_after (hop : phase.Allows op) (hpool : op.PoolLeads p r p') (hwelcome : op.Welcomed r)
    (hrest : rest < n) (hload : p.idle.length + (phase.load + rest) ≤ n) :
    p'.idle.length + ((phase.after op r).load + rest) ≤ n := by
  cases op with
  | take =>
    cases phase with
    | missed | holding _ => exact absurd hop id
    | free =>
      obtain ⟨capacity, idle, closed⟩ := p
      cases hpool
      cases idle with
      | nil =>
        simp [LeasePhase.after, LeasePhase.load]
        omega
      | cons c idle =>
        simp [LeasePhase.after, LeasePhase.load] at hload ⊢
        omega
  | dial =>
    cases phase with
    | free | holding _ => exact absurd hop id
    | missed =>
      cases hpool
      cases r with
      | ok c => exact hload
      | error e =>
        simp [LeasePhase.after, LeasePhase.load] at hload ⊢
        omega
  | put c =>
    cases phase with
    | free | missed => exact absurd hop id
    | holding c' =>
      rcases hpool.put_cases with ⟨-, rfl, -, -⟩ | ⟨hfull, -⟩
      · simp [LeasePhase.after, LeasePhase.load] at hload ⊢
        omega
      · obtain rfl : r = true := hwelcome
        cases hfull
  | destroy _ | markClosed | drain => cases phase <;> exact absurd hop id
  | isClosed =>
    obtain ⟨-, rfl⟩ := hpool
    exact hload
  | _ =>
    cases hpool
    exact hload

theorem LeasePhase.destroys_none (hop : phase.Allows op) : op.destroys = [] := by
  cases op with
  | destroy _ => cases phase <;> exact absurd hop id
  | _ => rfl

end Phases

/-! ## As many connections as calls -/

/-- Where a task stands in a call. -/
def PoolTask.Stands (task : PoolTask) (phase : LeasePhase) : Prop :=
  task.rest.Obeys openLaw (fun _ => (· = .free)) phase ∧ task.holding = ⟨phase.hand, false⟩

/-- The tasks stand in calls with a load of so much. -/
inductive Loaded : List PoolTask → Nat → Prop where
  | nil : Loaded [] 0
  | cons {task : PoolTask} {phase : LeasePhase} {tasks : List PoolTask} {m : Nat} :
    task.Stands phase → Loaded tasks m → Loaded (task :: tasks) (phase.load + m)

namespace Loaded
variable {task : PoolTask} {tasks front back : List PoolTask} {m : Nat}

/-- A task among others has its part of the load. -/
theorem middle : Loaded (front ++ task :: back) m ↔
    ∃ phase rest, task.Stands phase ∧ Loaded (front ++ back) rest ∧ m = phase.load + rest := by
  induction front generalizing m with
  | nil =>
    constructor
    · rintro (_ | ⟨hstands, hback⟩)
      exact ⟨_, _, hstands, hback, rfl⟩
    · rintro ⟨phase, rest, hstands, hback, rfl⟩
      exact .cons hstands hback
  | cons first front ih =>
    constructor
    · rintro (_ | ⟨hfirst, htasks⟩)
      obtain ⟨phase, rest, hstands, hrest, rfl⟩ := ih.1 htasks
      exact ⟨phase, _, hstands, .cons hfirst hrest, Nat.add_left_comm _ _ _⟩
    · rintro ⟨phase, _, hstands, _ | ⟨hfirst, hrest⟩, rfl⟩
      rw [Nat.add_left_comm]
      exact .cons hfirst (ih.2 ⟨phase, _, hstands, hrest, rfl⟩)

theorem le_length (h : Loaded tasks m) : m ≤ tasks.length := by
  induction h with
  | nil => exact Nat.le_refl 0
  | @cons task phase tasks m _ _ ih =>
    have hone : phase.load ≤ 1 := by cases phase <;> simp [LeasePhase.load]
    rw [List.length_cons]
    omega

/-- What tasks hold is part of their load. -/
theorem hands_le (h : Loaded tasks m) : (tasks.flatMap (·.holding.hand)).length ≤ m := by
  induction h with
  | nil => exact Nat.le_refl 0
  | @cons task phase tasks m hstands _ ih =>
    have hhand : task.holding.hand.length ≤ phase.load := by
      rw [hstands.2]
      cases phase <;> simp [LeasePhase.hand, LeasePhase.load]
    rw [List.flatMap_cons, List.length_append]
    exact Nat.add_le_add hhand ih

end Loaded

section Light
variable {ν σ : Type} {n : Nat} {s : PoolSystem ν σ}

/-- The pool is open, all tasks are calls, and there is room for what they hold and are about to make. -/
structure Light (n : Nat) (s : PoolSystem ν σ) : Prop where
  isOpen : s.world.pool.closed = false
  room : n ≤ s.world.pool.capacity
  load : ∃ m, Loaded s.tasks m ∧ s.world.pool.idle.length + m ≤ n
  kept : s.destroyed = []

theorem FacadeCall.stands (config : Config) (call : FacadeCall) :
    PoolTask.Stands ⟨(ClientUse.call call).program config, ⟨[], false⟩⟩ .free :=
  ⟨.bind ((call.obeys openLaw_leases config).mono fun _ _ hphase => hphase), rfl⟩

/-- A hand that is let go is that of a call at its end. -/
theorem letGo_stands (phase : LeasePhase) : ∃ phase' : LeasePhase, phase'.load ≤ phase.load ∧
    PoolTask.Stands ⟨Lease.letGo phase.hand, ⟨phase.hand, false⟩⟩ phase' := by
  cases phase with
  | free | missed => exact ⟨.free, Nat.zero_le _, rfl, rfl⟩
  | holding c =>
    refine ⟨.holding c, Nat.le_refl _, ?_, rfl⟩
    exact .bind ((openLaw_leases.giveBack c).mono fun _ _ hphase => hphase)

namespace Light

theorem initial (w : World ν σ) {size : Nat} (hn : n ≤ (Pool.ofSize size).capacity) :
    Light n (PoolSystem.initial size w) :=
  ⟨rfl, hn, ⟨0, .nil, Nat.zero_le _⟩, rfl⟩

theorem abandon (h : Light n s) (index : Nat) : Light n (s.abandon index) := by
  rcases s.abandon_cases index with heq | ⟨front, back, rest, hand, htasks, heq⟩
  · rw [heq]
    exact h
  · obtain ⟨m, hm, hload⟩ := h.load
    rw [htasks] at hm
    obtain ⟨phase, others, ⟨-, hhand⟩, hothers, rfl⟩ := Loaded.middle.1 hm
    obtain rfl : hand = phase.hand := congrArg Holding.hand hhand
    obtain ⟨phase', hphase', hstands⟩ := letGo_stands phase
    rw [heq]
    refine ⟨h.isOpen, h.room, ⟨phase'.load + others, Loaded.middle.2 ⟨phase', others, hstands, hothers, rfl⟩, ?_⟩, h.kept⟩
    show s.world.pool.idle.length + (phase'.load + others) ≤ n
    omega

variable [Node ν] [CheckpointStore σ]

/-- A step of one of no more than so many calls. -/
theorem advance (h : Light n s) (hcrowd : s.tasks.length ≤ n) (index : Nat) : Light n (s.advance index) := by
  obtain ⟨m, hm, hload⟩ := h.load
  rcases s.advance_cases index with heq | ⟨front, back, leases, k, htasks, heq⟩ |
    ⟨front, back, op, next, k, htasks, -, heq⟩
  · rw [heq]
    exact h
  · rw [htasks] at hm
    obtain ⟨phase, others, ⟨hdone, -⟩, hothers, rfl⟩ := Loaded.middle.1 hm
    obtain rfl : phase = .free := hdone
    rw [heq]
    refine ⟨h.isOpen, h.room, ⟨others, hothers, ?_⟩, h.kept⟩
    simpa [LeasePhase.load] using hload
  · rw [htasks] at hm hcrowd
    obtain ⟨phase, others, ⟨⟨hop, hnext⟩, hhand⟩, hothers, rfl⟩ := Loaded.middle.1 hm
    have hpool := perform_pool s.world op
    have hwelcome := phase.welcomed hop hpool h.isOpen h.room hload
    have hfew : others < n := by
      have hlength := hothers.le_length
      simp only [List.length_append, List.length_cons] at hcrowd hlength
      omega
    have hstands : PoolTask.Stands ⟨next (s.world.perform op).1, k.after op (s.world.perform op).1⟩
        (phase.after op (s.world.perform op).1) := by
      refine ⟨hnext _ _ ⟨hwelcome, rfl⟩, ?_⟩
      obtain rfl : k = ⟨phase.hand, false⟩ := hhand
      exact phase.hand_after hop hwelcome
    rw [heq]
    refine ⟨(phase.stays_open hop hpool).trans h.isOpen, ?_, ⟨_, Loaded.middle.2 ⟨_, others, hstands, hothers, rfl⟩,
      phase.load_after hop hpool hwelcome hfew hload⟩, ?_⟩
    · exact Nat.le_trans h.room (Nat.le_of_eq hpool.bounded.1.symm)
    · show op.destroys ++ s.destroyed = []
      rw [phase.destroys_none hop, h.kept, List.append_nil]

theorem move (h : Light n s) (config : Config) {m : ClientMove ν σ} (hcrowd : s.tasks.length ≤ n)
    (hcall : ∀ use, m = .start use → use.isCall = true) : Light n (s.serveMove config m) := by
  cases m with
  | step index => exact h.advance hcrowd index
  | abandon index => exact h.abandon index
  | outside w => exact ⟨h.isOpen, h.room, h.load, h.kept⟩
  | start use =>
    cases use with
    | prewarm | close => cases hcall _ rfl
    | call call =>
      obtain ⟨m, hm, hload⟩ := h.load
      refine ⟨h.isOpen, h.room, ⟨_, .cons (call.stands config) hm, ?_⟩, h.kept⟩
      show s.world.pool.idle.length + (0 + m) ≤ n
      rw [Nat.zero_add]
      exact hload

theorem serve (h : Light n s) (config : Config) (moves : List (ClientMove ν σ))
    (hcalls : ∀ use, .start use ∈ moves → use.isCall = true)
    (hcrowd : ∀ k < moves.length, (s.serve config (moves.take k)).tasks.length ≤ n) : Light n (s.serve config moves) := by
  induction moves generalizing s with
  | nil => exact h
  | cons m moves ih =>
    have hmove : Light n (s.serveMove config m) := by
      refine h.move config (hcrowd 0 (Nat.succ_pos _)) fun use huse => hcalls use ?_
      rw [huse]
      exact List.mem_cons_self
    refine ih hmove (fun use huse => hcalls use (List.mem_cons_of_mem _ huse)) fun k hk => ?_
    exact hcrowd (k + 1) (Nat.succ_lt_succ hk)

end Light

variable [Node ν] [CheckpointStore σ]

/-- Whatever calls, prewarms and closes run over the pool of a client, in whatever order and whatever becomes of
them: no connection is leased out, and when no call is in progress each connection that was made is idle or was
destroyed, so these are as many as the dials that succeeded. If no more than `n` calls run at once, and nothing
else, and the pool has room for `n`, then no more than `n` dials succeed and no connection is destroyed. There is
room for one in each pool, so this is so for calls that run one after another. -/
theorem calls_return (config : Config) (size : Nat) (w : World ν σ) (moves : List (ClientMove ν σ)) :
    let start := PoolSystem.initial size w
    let s := start.serve config moves
    s.leases = [] ∧
    ((∀ task ∈ s.tasks, task.rest.isDone = true) → s.hands = [] ∧
      (s.world.pool.idle ++ s.destroyed).Perm s.made ∧
      s.made.length = s.world.pool.idle.length + s.destroyed.length) ∧
    1 ≤ (Pool.ofSize size).capacity ∧
    ∀ n ≤ (Pool.ofSize size).capacity, (∀ use, .start use ∈ moves → use.isCall = true) →
      (∀ k < moves.length, (start.serve config (moves.take k)).tasks.length ≤ n) →
      s.made.length ≤ n ∧ s.destroyed = [] := by
  intro start s
  have hs : Returning size s := (Returning.initial size w).serve config moves
  refine ⟨hs.leases, fun hdone => ?_, ?_, fun n hn hcalls hcrowd => ?_⟩
  · have hhands : s.hands = [] := by
      refine List.flatMap_eq_nil_iff.2 fun task htask => ?_
      obtain ⟨rest, k⟩ := task
      cases rest with
      | step op next => cases hdone _ htask
      | done leases =>
        obtain ⟨-, rfl⟩ := hs.returns _ htask
        rfl
    have hperm := hs.made_perm
    rw [hhands, List.append_nil] at hperm
    refine ⟨hhands, hperm, ?_⟩
    rw [← hperm.length_eq, List.length_append]
  · unfold Pool.ofSize
    split
    · decide
    · rename_i hsize
      exact Nat.one_le_iff_ne_zero.2 hsize
  · have hlight : Light n s := (Light.initial w hn).serve config moves hcalls hcrowd
    obtain ⟨m, hm, hload⟩ := hlight.load
    have hhands := hm.hands_le
    refine ⟨?_, hlight.kept⟩
    rw [← hs.made_perm.length_eq, hlight.kept, List.append_nil, List.length_append]
    exact Nat.le_trans (Nat.add_le_add_left hhands _) hload

/-- A call, and one that is abandoned in the middle of its question: one connection serves both. -/
example :
    let w : World SimulatedNode MemoryStore := .initial .initial 0 .empty
    let asking : ClientMove SimulatedNode MemoryStore := .start (.call .blockNumber)
    let s := (PoolSystem.initial 1 w).serve .standard ([asking] ++ List.replicate 6 (.step 0) ++
      [asking, .step 0, .abandon 0, .step 0, .step 0])
    s.tasks.length = 0 ∧ s.made = [0] ∧ s.world.pool.idle = [0] ∧ s.destroyed = [] := by decide +kernel

end Light
end EvmClient
