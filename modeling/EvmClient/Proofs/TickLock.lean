import EvmClient.Proofs.TickProtocol
import Mathlib.Data.List.Nodup

/-
The lock of a scanner's ticks.

   A tick holds the lock from its first step to its last, so of ticks that run at the same time no more than one is
   at work: the one that took the lock last. All that took it before have come to their end, and all others wait.
   The log of such ticks is therefore put together from the logs of single ticks, in the order of the lock.

   1. `TickState.Inside.step` — within a tick no step touches a lock, but for the last, which gives it back.
   2. `Serial.stepped` — a step of any tick keeps the order.
   3. `ticks_serial` — ticks of one scanner are in this order at any time. -/
namespace EvmClient

/-! ## What steps do to locks -/

/-- The locks that are taken after a step. -/
def Op.heldAfter : Op → List Nat → List Nat
  | .lock id, held => id :: held
  | .unlock id, held => held.erase id
  | _, held => held

def Op.locks : Op → Bool
  | .lock _ => true
  | _ => false

/-- The step touches no lock. -/
def Op.Lockless (op : Op) : Prop := op.locks = false ∧ ∀ held, op.heldAfter held = held

theorem perform_held {ν σ : Type} [Node ν] [CheckpointStore σ] (w : World ν σ) (op : Op) :
    (w.perform op).2.held = op.heldAfter w.held := by
  cases op with
  | pause ctx span =>
    obtain ⟨_, _, _, _, hpause⟩ := World.pause_frame ctx span w
    show (w.pause ctx span).2.held = w.held
    rw [hpause]
  | _ => rfl

theorem Op.Idle.lockless {op : Op} (h : op.Idle) : op.Lockless := by
  cases op with
  | lock _ | unlock _ => exact absurd h id
  | _ => exact ⟨rfl, fun _ => rfl⟩

namespace TickState
variable {scanner : Scanner} {k : TickState} {op : Op}

/-- The tick has taken the lock and not given it back. -/
def Inside : TickState → Prop
  | .begun | .released => False
  | _ => True

theorem Between.inside (h : k.Between) : k.Inside := by
  cases k with
  | begun | released => exact absurd h id
  | _ => trivial

/-- Within a tick no step touches a lock, but for the last, which gives the lock back. -/
theorem Inside.step {r : op.Answer} {k' : TickState} (hk : k.Inside) (h : TickMove scanner k op r k') :
    (op = .unlock scanner.lock ∧ k' = .released) ∨ (op.Lockless ∧ k'.Inside) := by
  have hown {op : Op} {k' : TickState} (hlocks : op.locks = false) (hheld : ∀ held, op.heldAfter held = held)
      (hinside : k'.Inside) : (op = .unlock scanner.lock ∧ k' = .released) ∨ (op.Lockless ∧ k'.Inside) :=
    .inr ⟨⟨hlocks, hheld⟩, hinside⟩
  cases h with
  | lock => exact absurd hk id
  | unlock _ => exact .inl ⟨rfl, rfl⟩
  | idle hbetween hidle => exact .inr ⟨hidle.lockless, hbetween.inside⟩
  | _ => exact hown rfl (fun _ => rfl) trivial

end TickState

/-! ## The order -/

/-- The tasks in the order in which they took a lock. -/
def TaskSystem.order {α ν σ : Type} (s : TaskSystem α ν σ) : List Nat :=
  (s.log.filter (·.op.locks)).map TaskStep.task

section Order
variable {ν σ : Type} [Node ν] [CheckpointStore σ] {scanner : Scanner}
  {s : TaskSystem (Except ClientError TickOutcome) ν σ}

/-- At most the tick that took the lock last is at work. -/
structure Serial (scanner : Scanner) (s : TaskSystem (Except ClientError TickOutcome) ν σ) : Prop where
  log : s.log = s.order.flatMap s.stepsOf
  nodup : s.order.Nodup
  uncalled : ∀ i, i ∉ s.order → s.stepsOf i = []
  lock : (s.world.held = [] ∧ ∀ i ∈ s.order, tickState scanner (s.stepsOf i) = .released) ∨
    ∃ front i, s.order = front ++ [i] ∧ (∀ j ∈ front, tickState scanner (s.stepsOf j) = .released) ∧
      s.world.held = [scanner.lock] ∧ (tickState scanner (s.stepsOf i)).Inside

namespace Serial
variable {task : Nat} {op : Op} {next : op.Answer → Program (Except ClientError TickOutcome)}

theorem order_stepped (s : TaskSystem (Except ClientError TickOutcome) ν σ) (task : Nat) (op : Op)
    (next : op.Answer → Program (Except ClientError TickOutcome)) :
    (s.stepped task op next).order = s.order ++ if op.locks then [task] else [] := by
  show ((s.log ++ [_]).filter _).map _ = _
  rw [List.filter_append, List.map_append]
  cases h : op.locks <;> simp [TaskSystem.order, h]

theorem held_stepped (s : TaskSystem (Except ClientError TickOutcome) ν σ) (task : Nat) (op : Op)
    (next : op.Answer → Program (Except ClientError TickOutcome)) :
    (s.stepped task op next).world.held = op.heldAfter s.world.held := perform_held s.world op

/-- The log stays in order where the task that took the lock last takes a step. -/
theorem log_stepped {front : List Nat} (hlog : s.log = (front ++ [task]).flatMap s.stepsOf) (hfront : task ∉ front) :
    (s.stepped task op next).log = (front ++ [task]).flatMap (s.stepped task op next).stepsOf := by
  have hothers : front.flatMap (s.stepped task op next).stepsOf = front.flatMap s.stepsOf := by
    refine List.flatMap_congr fun j hj => ?_
    have hne : j ≠ task := fun h => hfront (h ▸ hj)
    exact s.stepsOf_stepped_other hne op next
  show s.log ++ _ = _
  rw [List.flatMap_append, List.flatMap_singleton, hothers, s.stepsOf_stepped_self, hlog, List.flatMap_append,
    List.flatMap_singleton, List.append_assoc]

/-- The lock is taken by a tick that waited for it. -/
theorem enter (h : Serial scanner s) (htask : task ∉ s.order)
    (henabled : s.world.enabled (.lock scanner.lock) = true)
    {next : Unit → Program (Except ClientError TickOutcome)} :
    Serial scanner (s.stepped task (.lock scanner.lock) next) := by
  have hheld : s.world.held = [] ∧ ∀ i ∈ s.order, tickState scanner (s.stepsOf i) = .released := by
    rcases h.lock with hfree | ⟨front, i, -, -, hheld, -⟩
    · exact hfree
    · rw [World.enabled, hheld] at henabled
      simp at henabled
  have hnone := h.uncalled task htask
  have horder : (s.stepped task (.lock scanner.lock) next).order = s.order ++ [task] := order_stepped s task _ next
  have hlog : s.log = (s.order ++ [task]).flatMap s.stepsOf := by
    rw [List.flatMap_append, List.flatMap_singleton, hnone, List.append_nil]
    exact h.log
  have hother {j : Nat} (hj : j ≠ task) : (s.stepped task (.lock scanner.lock) next).stepsOf j = s.stepsOf j :=
    s.stepsOf_stepped_other hj _ next
  refine ⟨?_, ?_, fun i hi => ?_, .inr ⟨s.order, task, horder, fun j hj => ?_, ?_, ?_⟩⟩
  · rw [horder]
    exact log_stepped hlog htask
  · rw [horder]
    refine List.nodup_append.2 ⟨h.nodup, List.nodup_singleton task, fun i hi j hj hij => ?_⟩
    rw [hij, List.mem_singleton.1 hj] at hi
    exact htask hi
  · rw [horder] at hi
    simp only [List.mem_append, List.mem_singleton, not_or] at hi
    rw [hother hi.2]
    exact h.uncalled i hi.1
  · have hne : j ≠ task := fun h => htask (h ▸ hj)
    rw [hother hne]
    exact hheld.2 j hj
  · rw [held_stepped, hheld.1]
    rfl
  · rw [tickState_stepped, hnone]
    trivial

/-- A step of the tick that holds the lock. -/
theorem within (h : Serial scanner s) {front : List Nat} (horder : s.order = front ++ [task])
    (hfront : ∀ j ∈ front, tickState scanner (s.stepsOf j) = .released) (hheld : s.world.held = [scanner.lock])
    (hinside : (tickState scanner (s.stepsOf task)).Inside)
    (hop : (tickState scanner (s.stepsOf task)).Allows scanner op) : Serial scanner (s.stepped task op next) := by
  have hnodup := h.nodup
  rw [horder] at hnodup
  have htask : task ∉ front := fun hmem => (List.nodup_append.1 hnodup).2.2 _ hmem _ (List.mem_singleton.2 rfl) rfl
  have hothers : ∀ j ∈ front, tickState scanner ((s.stepped task op next).stepsOf j) = .released := by
    intro j hj
    have hne : j ≠ task := fun h => htask (h ▸ hj)
    rw [s.stepsOf_stepped_other hne]
    exact hfront j hj
  have hheld' : (s.stepped task op next).world.held = op.heldAfter [scanner.lock] := by
    rw [held_stepped, hheld]
  have hstep := hinside.step (hop.move (s.world.perform op).1)
  have hlockless : op.locks = false := by
    rcases hstep with ⟨rfl, -⟩ | ⟨hlockless, -⟩
    · rfl
    · exact hlockless.1
  have horder' : (s.stepped task op next).order = front ++ [task] := by
    rw [order_stepped, hlockless, horder]
    simp
  refine ⟨?_, ?_, fun i hi => ?_, ?_⟩
  · rw [horder']
    exact log_stepped (horder ▸ h.log) htask
  · rw [horder']
    exact hnodup
  · rw [horder'] at hi
    have hne : i ≠ task := fun h => hi (h ▸ List.mem_append_right _ (List.mem_singleton.2 rfl))
    rw [s.stepsOf_stepped_other hne]
    exact h.uncalled i (horder ▸ hi)
  · rw [horder']
    rcases hstep with ⟨rfl, hreleased⟩ | ⟨hlockless, hinside⟩
    · refine .inl ⟨?_, fun i hi => ?_⟩
      · rw [hheld', Op.heldAfter, List.erase_cons_head]
      · rcases List.mem_append.1 hi with hi | hi
        · exact hothers i hi
        · rw [List.mem_singleton.1 hi, tickState_stepped, hreleased]
    · refine .inr ⟨front, task, rfl, hothers, ?_, ?_⟩
      · rw [hheld', hlockless.2]
      · rw [tickState_stepped]
        exact hinside

/-- A step of any tick keeps the order. -/
theorem stepped (h : Serial scanner s) (hop : (tickState scanner (s.stepsOf task)).Allows scanner op)
    (henabled : s.world.enabled op = true) : Serial scanner (s.stepped task op next) := by
  by_cases htask : task ∈ s.order
  · rcases h.lock with ⟨-, hall⟩ | ⟨front, i, horder, hfront, hheld, hinside⟩
    · rw [hall task htask] at hop
      exact absurd hop id
    · rw [horder] at htask
      rcases List.mem_append.1 htask with hmem | hmem
      · rw [hfront task hmem] at hop
        exact absurd hop id
      · obtain rfl := List.mem_singleton.1 hmem
        exact h.within horder hfront hheld hinside hop
  · rw [h.uncalled task htask] at hop
    obtain rfl : op = .lock scanner.lock := hop
    exact h.enter htask henabled

end Serial

/-- Ticks of one scanner are at work one at a time, in the order in which they took the lock. -/
theorem ticks_serial (scanner : Scanner) (ctx : Nat → Context) (w : World ν σ) (moves : List (TaskMove ν σ)) :
    Serial scanner ((TaskSystem.ticks (fun _ => scanner) ctx w).run moves) := by
  refine TaskSystem.ticks_induct ?_ ?_ ?_ moves
  · exact ⟨rfl, .nil, fun _ _ => rfl, .inl ⟨rfl, fun _ h => by cases h⟩⟩
  · exact fun s task op next hop henabled hs => hs.stepped hop henabled
  · exact fun s w' hs => ⟨hs.log, hs.nodup, hs.uncalled, hs.lock⟩

end Order
end EvmClient
