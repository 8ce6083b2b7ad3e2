import EvmClient.Lease
import EvmClient.World

/-
How actions run.

   `Program.run_bind` says what follows a program; here is the same for actions, where an error ends what
   would follow.

   1. `World.pause_frame` — a pause changes only what time changes.
   2. `Action.run_bind` — what follows an action, and `run_bind_error`: nothing follows an error.
   3. `Lease.run_withConnection` — a leased operation in three parts: to acquire, to operate, to give back. -/
namespace EvmClient

/-! ## Time -/

namespace World
variable {ν σ : Type}

/-- As time goes by, only the node, the signals and the coming events change. -/
theorem elapse_frame (ctx : Context) (stop : Nat) (agenda : List (Nat × Event ν)) (w : World ν σ) :
    ∃ now node signals agenda', elapse ctx stop agenda w = { w with now, node, signals, agenda := agenda' } := by
  induction agenda generalizing w with
  | nil => exact ⟨_, _, _, _, rfl⟩
  | cons p rest ih =>
    obtain ⟨t, e⟩ := p
    have hstep : ∃ now node signals agenda', happen e { w with now := max w.now t, agenda := rest } =
        { w with now, node, signals, agenda := agenda' } := by
      cases e <;> exact ⟨_, _, _, _, rfl⟩
    obtain ⟨now, node, signals, agenda', hstep⟩ := hstep
    simp only [elapse]
    rw [hstep]
    split
    · exact ⟨_, _, _, _, rfl⟩
    · split
      · exact ⟨_, _, _, _, rfl⟩
      · exact ih { w with now, node, signals, agenda := agenda' }

theorem pause_frame (ctx : Context) (span : Nat) (w : World ν σ) :
    ∃ now node signals agenda', (w.pause ctx span).2 = { w with now, node, signals, agenda := agenda' } := by
  unfold pause
  split
  · exact ⟨_, _, _, _, rfl⟩
  · split
    · exact ⟨_, _, _, _, rfl⟩
    · exact elapse_frame ctx _ w.agenda w

end World

/-! ## Actions -/

section Actions
variable {α β ν σ : Type} [Node ν] [CheckpointStore σ]

namespace Action

theorem run_bind (a : Action α) (f : α → Action β) (w : World ν σ) :
    (a >>= f).run.run w =
      match a.run.run w with
      | (.ok v, w) => (f v).run.run w
      | (.error e, w) => (.error e, w) := by
  rw [ExceptT.run_bind, Program.run_bind]
  rcases h : a.run.run w with ⟨r, w'⟩
  cases r <;> rfl

/-- Nothing follows an error. -/
theorem run_bind_error {a : Action α} {w w' : World ν σ} {e : ClientError} (h : a.run.run w = (.error e, w'))
    (f : α → Action β) : (a >>= f).run.run w = (.error e, w') := by
  rw [run_bind, h]

@[simp] theorem run_pure (v : α) (w : World ν σ) : (pure v : Action α).run.run w = (.ok v, w) := rfl

@[simp] theorem run_throw (e : ClientError) (w : World ν σ) : (throw e : Action α).run.run w = (.error e, w) := rfl

@[simp] theorem run_program (p : Program α) (w : World ν σ) :
    (liftM p : Action α).run.run w = (.ok (p.run w).1, (p.run w).2) :=
  Program.run_bind p (fun v => (pure (.ok v) : Program (Except ClientError α))) w

@[simp] theorem run_outcome (a : Action α) (w : World ν σ) :
    a.outcome.run.run w = (.ok (a.run.run w).1, (a.run.run w).2) :=
  Program.run_bind a.run (fun r => (pure (.ok r) : Program (Except ClientError (Except ClientError α)))) w

end Action

namespace Lease

/-- To acquire, to operate, to give back. -/
theorem run_withConnection (body : Connection → Action α) (w : World ν σ) :
    (withConnection body).run.run w =
      match acquire.run.run w with
      | (.error e, w) => (.error e, w)
      | (.ok c, w) => (((body c).run.run w).1, ((giveBack c).run ((body c).run.run w).2).2) := by
  show (acquire.run >>= _).run w = _
  rw [Program.run_bind]
  rcases acquire.run.run w with ⟨r, w'⟩
  cases r with
  | error e => rfl
  | ok c => simp only [Program.run_bind, Program.run_pure]

end Lease
end Actions
end EvmClient
