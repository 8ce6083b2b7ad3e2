import EvmClient.Proofs.FacadeCalls
import EvmClient.Proofs.PoolSafety

/-
The connections of a client whose calls come and go.

   Calls of the client run over its pool, in any interleaving, and may be abandoned wherever they stand; the pool
   may be prewarmed and closed meanwhile. What is held when a task is abandoned is given back, as it is where a
   task ends by itself. So the account of `Sound` stays right, and nobody leases a connection out.

   1. `ClientUse.leasesNone` — the law of the pool is obeyed, and in the end nothing is held.
   2. `Returning.serve` — so it is for all tasks of a client, abandoned or not.
   3. `Returning.made_perm` — each connection is in the queue, in the hand of a task, or destroyed. -/
namespace EvmClient

/-! ## The system -/

/-- What a client does with its pool. -/
inductive ClientUse where
  | call (call : FacadeCall)
  | prewarm (n : Nat)
  | close

namespace ClientUse

def program (config : Config) : ClientUse → Program (List Connection)
  | .call facadeCall => do
    facadeCall.program config
    return []
  | .prewarm n => (PoolCall.prewarm n).program
  | .close => PoolCall.close.program

def isCall : ClientUse → Bool
  | .call _ => true
  | .prewarm _ | .close => false

end ClientUse

inductive ClientMove (ν σ : Type) where
  | start (use : ClientUse)
  | step (index : Nat)
  /-- What the task at an index was to do comes to nothing. -/
  | abandon (index : Nat)
  | outside (w : World ν σ)

/-- What becomes of the connections in a hand that is let go. -/
def Lease.letGo : List Connection → Program (List Connection)
  | [] => return []
  | c :: rest => do
    let _ ← giveBack c
    letGo rest

namespace PoolSystem
variable {ν σ : Type}

/-- A task is abandoned, but for one that closes the pool: it waits for nothing. -/
def abandon (s : PoolSystem ν σ) (index : Nat) : PoolSystem ν σ :=
  match s.tasks[index]? with
  | some ⟨_, ⟨hand, false⟩⟩ => { s with tasks := s.tasks.set index ⟨Lease.letGo hand, ⟨hand, false⟩⟩ }
  | _ => s

theorem abandon_cases (s : PoolSystem ν σ) (index : Nat) :
    s.abandon index = s ∨ ∃ front back rest hand, s.tasks = front ++ ⟨rest, ⟨hand, false⟩⟩ :: back ∧
      s.abandon index = { s with tasks := front ++ ⟨Lease.letGo hand, ⟨hand, false⟩⟩ :: back } := by
  unfold abandon
  split
  · rename_i rest hand htask
    obtain ⟨hindex, hget⟩ := List.getElem?_eq_some_iff.1 htask
    refine .inr ⟨s.tasks.take index, s.tasks.drop (index + 1), rest, hand, ?_, ?_⟩
    · rw [← hget, ← List.drop_eq_getElem_cons hindex, List.take_append_drop]
    · rw [List.set_eq_take_append_cons_drop, if_pos hindex]
  · exact .inl rfl

variable [Node ν] [CheckpointStore σ]

def serveMove (config : Config) (s : PoolSystem ν σ) : ClientMove ν σ → PoolSystem ν σ
  | .start use => { s with tasks := ⟨use.program config, ⟨[], false⟩⟩ :: s.tasks }
  | .step index => s.advance index
  | .abandon index => s.abandon index
  | .outside w => s.move (.outside w)

def serve (config : Config) (s : PoolSystem ν σ) (moves : List (ClientMove ν σ)) : PoolSystem ν σ :=
  moves.foldl (serveMove config) s

end PoolSystem

/-! ## What is held is given back -/

theorem poolLaw_leases : poolLaw.Leases ⟨[], false⟩ fun c => ⟨[c], false⟩ where
  allows k op hop := by
    cases op with
    | put _ | destroy _ | drain => exact absurd hop id
    | _ => exact trivial
  leads k op r k' hop hleads := by
    cases op with
    | take | isClosed | dial | put _ | destroy _ | markClosed | drain => exact absurd hop id
    | _ => exact hleads
  acquire := acquire_holds.mono fun r k hk => by cases r <;> exact hk
  giveBack c := (giveBack_holds List.mem_cons_self).mono fun _ k hk => by
    rw [hk, List.erase_cons_head]

/-- Nothing is leased out, and nothing is held in the end. -/
def Program.LeasesNone (p : Program (List Connection)) (k : Holding) : Prop :=
  p.Obeys poolLaw (fun leases k' => leases = [] ∧ k' = ⟨[], false⟩) k

theorem Program.LeasesNone.obeys {p : Program (List Connection)} {k : Holding} (hp : p.LeasesNone k) :
    p.Obeys poolLaw (fun leases => (· = ⟨leases, false⟩)) k := by
  refine hp.mono ?_
  rintro _ _ ⟨rfl, rfl⟩
  rfl

theorem letGo_leasesNone (cs : List Connection) : (Lease.letGo cs).LeasesNone ⟨cs, false⟩ := by
  induction cs with
  | nil => exact ⟨rfl, rfl⟩
  | cons c cs ih =>
    refine .bind ((giveBack_holds List.mem_cons_self).mono fun _ k hk => ?_)
    rw [hk, List.erase_cons_head]
    exact ih

theorem ClientUse.leasesNone (config : Config) (use : ClientUse) : (use.program config).LeasesNone ⟨[], false⟩ := by
  have hnone {β : Type} {p : Program β} (hp : p.Returns poolLaw ⟨[], false⟩) :
      (do let _ ← p; return [] : Program (List Connection)).LeasesNone ⟨[], false⟩ :=
    Program.Obeys.bind (hp.mono fun _ k hk => And.intro rfl hk)
  cases use with
  | call call => exact hnone (call.obeys poolLaw_leases config)
  | prewarm n => exact hnone (prewarm_holds n)
  | close => exact hnone close_holds

section Returning
variable {ν σ : Type} {size : Nat} {s : PoolSystem ν σ}

/-- The pool's account is right, and nobody leases anything out. -/
structure Returning (size : Nat) (s : PoolSystem ν σ) : Prop where
  sound : Sound size s
  returns : ∀ task ∈ s.tasks, task.rest.LeasesNone task.holding
  leases : s.leases = []

/-- A task may go on in another way with what it holds. -/
theorem Sound.turn (h : Sound size s) {front back : List PoolTask} {rest rest' : Program (List Connection)}
    {k : Holding} (htasks : s.tasks = front ++ ⟨rest, k⟩ :: back)
    (hrest : rest'.Obeys poolLaw (fun leases => (· = ⟨leases, false⟩)) k) :
    Sound size { s with tasks := front ++ ⟨rest', k⟩ :: back } := by
  refine ⟨fun task htask => ?_, h.capacity, h.bounded, fun task htask hclosing => ?_, fun hclosed => ?_, h.drained,
    fun c => ?_, h.unique⟩
  · rcases mem_middle.1 htask with rfl | htask
    · exact hrest
    · exact h.obeys task (htasks ▸ mem_middle.2 (.inr htask))
  · rcases mem_middle.1 htask with rfl | htask
    · exact h.closing ⟨rest, k⟩ (htasks ▸ List.mem_append_cons_self) hclosing
    · exact h.closing task (htasks ▸ mem_middle.2 (.inr htask)) hclosing
  · rcases h.pending hclosed with hdrained | ⟨task, htask, hclosing⟩
    · exact .inl hdrained
    · rw [htasks] at htask
      rcases mem_middle.1 htask with rfl | htask
      · exact .inr ⟨_, List.mem_append_cons_self, hclosing⟩
      · exact .inr ⟨task, mem_middle.2 (.inr htask), hclosing⟩
  · have hold := h.account c
    simp only [PoolSystem.hands, htasks, List.flatMap_append, List.flatMap_cons] at hold ⊢
    exact hold

namespace Returning

theorem initial (size : Nat) (w : World ν σ) : Returning size (PoolSystem.initial size w) where
  sound := .initial size w
  returns _ h := by cases h
  leases := rfl

variable [Node ν] [CheckpointStore σ]

theorem start (h : Returning size s) (config : Config) (use : ClientUse) :
    Returning size (s.serveMove config (.start use)) where
  sound := h.sound.enter (use.leasesNone config).obeys h.sound.unique fun c => by simp
  returns task htask := by
    rcases List.mem_cons.1 htask with rfl | htask
    · exact use.leasesNone config
    · exact h.returns task htask
  leases := h.leases

theorem advance (h : Returning size s) (index : Nat) : Returning size (s.advance index) := by
  refine ⟨h.sound.advance index, ?_, ?_⟩ <;>
    rcases s.advance_cases index with heq | ⟨front, back, leases, k, htasks, heq⟩ |
      ⟨front, back, op, next, k, htasks, hnew, heq⟩
  · rw [heq]
    exact h.returns
  · rw [heq]
    intro task htask
    exact h.returns task (htasks ▸ mem_middle.2 (.inr htask))
  · rw [heq]
    intro task htask
    rcases mem_middle.1 htask with rfl | htask
    · obtain ⟨-, hnext⟩ := h.returns ⟨.step op next, k⟩ (htasks ▸ List.mem_append_cons_self)
      exact hnext _ _ rfl
    · exact h.returns task (htasks ▸ mem_middle.2 (.inr htask))
  · rw [heq]
    exact h.leases
  · obtain ⟨hnone, -⟩ := h.returns ⟨.done leases, k⟩ (htasks ▸ List.mem_append_cons_self)
    rw [heq]
    show leases ++ s.leases = []
    rw [hnone, h.leases, List.append_nil]
  · rw [heq]
    exact h.leases

omit [Node ν] [CheckpointStore σ] in
theorem abandon (h : Returning size s) (index : Nat) : Returning size (s.abandon index) := by
  rcases s.abandon_cases index with heq | ⟨front, back, rest, hand, htasks, heq⟩
  · rw [heq]
    exact h
  · rw [heq]
    refine ⟨h.sound.turn htasks (letGo_leasesNone hand).obeys, fun task htask => ?_, h.leases⟩
    rcases mem_middle.1 htask with rfl | htask
    · exact letGo_leasesNone hand
    · exact h.returns task (htasks ▸ mem_middle.2 (.inr htask))

theorem move (h : Returning size s) (config : Config) (m : ClientMove ν σ) :
    Returning size (s.serveMove config m) := by
  cases m with
  | start use => exact h.start config use
  | step index => exact h.advance index
  | abandon index => exact h.abandon index
  | outside w => exact ⟨h.sound.move (.outside w), h.returns, h.leases⟩

theorem serve (h : Returning size s) (config : Config) (moves : List (ClientMove ν σ)) :
    Returning size (s.serve config moves) := by
  induction moves generalizing s with
  | nil => exact h
  | cons m moves ih => exact ih (h.move config m)

omit [Node ν] [CheckpointStore σ] in
/-- The connections that were made are in the queue, in a hand, or destroyed. -/
theorem made_perm (h : Returning size s) : (s.world.pool.idle ++ s.hands ++ s.destroyed).Perm s.made := by
  refine List.perm_iff_count.2 fun c => ?_
  have haccount := h.sound.account c
  rw [h.leases] at haccount
  simp only [List.count_append, List.count_nil] at haccount ⊢
  omega

end Returning
end Returning

end EvmClient
