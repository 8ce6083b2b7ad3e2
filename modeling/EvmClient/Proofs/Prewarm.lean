import EvmClient.Proofs.PoolQueue

/-
How far a prewarm fills a pool.

   A prewarm tries as many dials as the pool has places, whether they are free or not. A dial that fails is passed over
   and not made up for; a connection that finds the pool full is destroyed and ends the prewarm. So the pool may end with
   free places, but only where dials failed.

   1. `Prewarmed.missed`, `Prewarmed.kept`, `Prewarmed.full` — what one dial adds, by its outcome.
   2. `prewarm_prewarmed` — any number of dials.
   3. `prewarm_fills` — as many dials as the pool has places. -/
namespace EvmClient

/-- What dials of a prewarm come to: each successful one is kept, behind what was idle, up to one that finds the pool
full, and then it stops; else all are tried. -/
structure Prewarmed (tries : Nat) (before after : Pool) (answer : Nat) (work : PoolWork) (kept : List Connection) :
    Prop where
  tried : work.dials.length ≤ tries
  pool : after = { before with idle := before.idle ++ kept }
  answer : answer = kept.length
  account : work.dials.filterMap Except.toOption = kept ++ work.destroyed
  fits : after.idle.length ≤ after.capacity
  stopped : work.dials.length = tries ∧ work.destroyed = [] ∨
    after.idle.length = after.capacity ∧ work.destroyed.length = 1

section Prewarm
variable {ν σ : Type} [Node ν] [CheckpointStore σ]

namespace Prewarmed
variable {tries answer : Nat} {before after : Pool} {work : PoolWork} {cs : List Connection}

/-- A dial fails. -/
theorem missed (h : Prewarmed tries before after answer work cs) (e : ClientError) :
    Prewarmed (tries + 1) before after answer (⟨[.error e], []⟩ ++ work) cs where
  tried := Nat.succ_le_succ h.tried
  pool := h.pool
  answer := h.answer
  account := h.account
  fits := h.fits
  stopped := h.stopped.imp (And.imp_left (congrArg Nat.succ)) id

/-- A dial succeeds, and the pool has a free place. -/
theorem kept {c : Connection} (h : Prewarmed tries { before with idle := before.idle ++ [c] } after answer work cs) :
    Prewarmed (tries + 1) before after (answer + 1) (⟨[.ok c], []⟩ ++ work) (c :: cs) where
  tried := Nat.succ_le_succ h.tried
  pool := by rw [h.pool, List.append_assoc]; rfl
  answer := congrArg Nat.succ h.answer
  account := congrArg (c :: ·) h.account
  fits := h.fits
  stopped := h.stopped.imp (And.imp_left (congrArg Nat.succ)) id

/-- A dial succeeds, and the pool is full. -/
theorem full (c : Connection) (hfull : before.idle.length = before.capacity) :
    Prewarmed (tries + 1) before before 0 ⟨[.ok c], [c]⟩ [] where
  tried := Nat.succ_le_succ (Nat.zero_le tries)
  pool := by rw [List.append_nil]
  answer := rfl
  account := rfl
  fits := Nat.le_of_eq hfull
  stopped := .inr ⟨hfull, rfl⟩

theorem spent (hfits : before.idle.length ≤ before.capacity) : Prewarmed 0 before before 0 .none [] where
  tried := Nat.le_refl 0
  pool := by rw [List.append_nil]
  answer := rfl
  account := rfl
  fits := hfits
  stopped := .inl ⟨rfl, rfl⟩

end Prewarmed

section Dials
variable {w w' : World ν σ} {c : Connection} (n : Nat)

theorem prewarm_misses {e : ClientError} (hdial : w.perform .dial = (.error e, w')) :
    (Lease.prewarm (n + 1)).run w = (Lease.prewarm n).run w' ∧
      (Lease.prewarm (n + 1)).work w = ⟨[.error e], []⟩ ++ (Lease.prewarm n).work w' :=
  ⟨Program.run_step hdial, Program.work_step hdial⟩

theorem prewarm_keeps (hdial : w.perform .dial = (.ok c, w')) (haccepts : w'.pool.accepts = true) :
    let kept : World ν σ := { w' with pool := { w'.pool with idle := w'.pool.idle ++ [c] } }
    (Lease.prewarm (n + 1)).run w = (((Lease.prewarm n).run kept).1 + 1, ((Lease.prewarm n).run kept).2) ∧
      (Lease.prewarm (n + 1)).work w = ⟨[.ok c], []⟩ ++ (Lease.prewarm n).work kept := by
  intro kept
  obtain ⟨hrun, hwork⟩ := giveBack_keeps (c := c) haccepts
  constructor
  · refine (Program.run_step hdial).trans ((Program.run_bind (Lease.giveBack c) _ w').trans ?_)
    rw [hrun]
    exact Program.run_bind (Lease.prewarm n) _ kept
  · refine (Program.work_step hdial).trans (congrArg ((⟨[.ok c], []⟩ : PoolWork) ++ ·) ?_)
    refine (Program.work_bind (Lease.giveBack c) _ w').trans ?_
    rw [hwork, hrun, PoolWork.none_append]
    exact (Program.work_bind (Lease.prewarm n) _ kept).trans (PoolWork.append_none _)

theorem prewarm_stops (hdial : w.perform .dial = (.ok c, w')) (hrefuses : w'.pool.accepts = false) :
    (Lease.prewarm (n + 1)).run w = (0, (w'.perform (.destroy c)).2) ∧
      (Lease.prewarm (n + 1)).work w = ⟨[.ok c], [c]⟩ := by
  obtain ⟨hrun, hwork⟩ := giveBack_destroys (c := c) hrefuses
  constructor
  · refine (Program.run_step hdial).trans ((Program.run_bind (Lease.giveBack c) _ w').trans ?_)
    rw [hrun]
    rfl
  · refine (Program.work_step hdial).trans (congrArg ((⟨[.ok c], []⟩ : PoolWork) ++ ·) ?_ : _ = _ ++ ⟨[], [c]⟩)
    refine (Program.work_bind (Lease.giveBack c) _ w').trans ?_
    rw [hwork, hrun]
    rfl

end Dials

/-- Any number of dials into an open pool. -/
theorem prewarm_prewarmed (n : Nat) (w : World ν σ) (hopen : w.pool.closed = false)
    (hfits : w.pool.idle.length ≤ w.pool.capacity) :
    ∃ cs, Prewarmed n w.pool ((Lease.prewarm n).run w).2.pool ((Lease.prewarm n).run w).1 ((Lease.prewarm n).work w) cs := by
  induction n generalizing w with
  | zero => exact ⟨[], .spent hfits⟩
  | succ n ih =>
    have hpool : (w.perform .dial).2.pool = w.pool := rfl
    obtain ⟨r, w', hdial⟩ : ∃ r w', w.perform .dial = (r, w') := ⟨_, _, rfl⟩
    rw [hdial] at hpool
    dsimp only at hpool
    rw [← hpool] at hopen hfits ⊢
    cases r with
    | error e =>
      obtain ⟨cs, h⟩ := ih w' hopen hfits
      obtain ⟨hrun, hwork⟩ := prewarm_misses n hdial
      rw [hrun, hwork]
      exact ⟨cs, h.missed e⟩
    | ok c =>
      have hroom : w'.pool.accepts = decide (w'.pool.idle.length < w'.pool.capacity) := by
        rw [Pool.accepts, hopen]
        rfl
      cases haccepts : w'.pool.accepts with
      | true =>
        have hlt : w'.pool.idle.length < w'.pool.capacity := of_decide_eq_true (hroom.symm.trans haccepts)
        let kept : World ν σ := { w' with pool := { w'.pool with idle := w'.pool.idle ++ [c] } }
        have hkept : kept.pool.idle.length ≤ kept.pool.capacity := by
          rw [List.length_append]
          exact hlt
        obtain ⟨cs, h⟩ := ih kept hopen hkept
        obtain ⟨hrun, hwork⟩ := prewarm_keeps n hdial haccepts
        rw [hrun, hwork]
        exact ⟨c :: cs, h.kept⟩
      | false =>
        have hge : ¬w'.pool.idle.length < w'.pool.capacity := of_decide_eq_false (hroom.symm.trans haccepts)
        obtain ⟨hrun, hwork⟩ := prewarm_stops n hdial haccepts
        rw [hrun, hwork]
        exact ⟨[], .full c (Nat.le_antisymm hfits (Nat.le_of_not_lt hge))⟩

/-- A prewarm fills an open pool without waste: it tries no more dials than the pool has places; what was idle stays in
front and in order, and as many connections are added as it answers; all that the dials made is kept, but for one at
most. Where no dial fails the pool is full; where it is not full, all dials were tried, and one failed. -/
theorem prewarm_fills {w : World ν σ} (hopen : w.pool.closed = false) (hfits : w.pool.idle.length ≤ w.pool.capacity) :
    let prewarm := Lease.prewarm w.pool.capacity
    let answer := (prewarm.run w).1
    let pool := (prewarm.run w).2.pool
    let dials := (prewarm.work w).dials
    let destroyed := (prewarm.work w).destroyed
    dials.length ≤ w.pool.capacity ∧
      pool.idle.length = w.pool.idle.length + answer ∧
      (∃ kept, pool = { w.pool with idle := w.pool.idle ++ kept } ∧
        dials.filterMap Except.toOption = kept ++ destroyed ∧ destroyed.length ≤ 1) ∧
      ((∀ r ∈ dials, ∃ c, r = .ok c) → pool.idle.length = w.pool.capacity) ∧
      (pool.idle.length < w.pool.capacity → dials.length = w.pool.capacity ∧ ∃ e, .error e ∈ dials) := by
  intro prewarm answer pool dials destroyed
  obtain ⟨kept, h⟩ : ∃ kept, Prewarmed w.pool.capacity w.pool pool answer ⟨dials, destroyed⟩ kept :=
    prewarm_prewarmed w.pool.capacity w hopen hfits
  have hcapacity : pool.capacity = w.pool.capacity := by rw [h.pool]
  have hgrowth : pool.idle.length = w.pool.idle.length + answer := by rw [h.pool, h.answer, List.length_append]
  have hfull (hall : ∀ r ∈ dials, ∃ c, r = .ok c) : pool.idle.length = w.pool.capacity := by
    rcases h.stopped with ⟨htried, hnone⟩ | ⟨hfull, -⟩
    · -- As many dials as places, and all were kept.
      have hkept : kept.length = w.pool.capacity := by
        have hcount := List.filterMap_length_eq_length (f := Except.toOption).2 fun r hr => by
          obtain ⟨c, rfl⟩ := hall r hr
          rfl
        rw [h.account, hnone, List.append_nil] at hcount
        exact hcount.trans htried
      have hfits := h.fits
      have hanswer := h.answer
      omega
    · exact hfull.trans hcapacity
  refine ⟨h.tried, hgrowth, ⟨kept, h.pool, h.account, ?_⟩, hfull, fun hless => ?_⟩
  · rcases h.stopped with ⟨-, hnone⟩ | ⟨-, hone⟩
    · exact Nat.le_trans (Nat.le_of_eq (congrArg List.length hnone)) (Nat.zero_le 1)
    · exact Nat.le_of_eq hone
  · rcases h.stopped with ⟨htried, -⟩ | ⟨hall, -⟩
    · refine ⟨htried, ?_⟩
      by_contra hnone
      refine Nat.ne_of_lt hless (hfull fun r hr => ?_)
      cases r with
      | ok c => exact ⟨c, rfl⟩
      | error e => exact absurd ⟨e, hr⟩ hnone
    · exact absurd (hall.trans hcapacity) (Nat.ne_of_lt hless)

end Prewarm

/-! ## A prewarm with a dial that fails -/

/-- A node that can be dialed only: its dials come out as they are listed. -/
structure ListedDials where
  outcomes : List (Except ClientError Connection)

instance : Node ListedDials where
  dial n := (n.outcomes.head?.getD (.error (.dialFailed "refused")), ⟨n.outcomes.tail⟩)
  ask _ _ n := (.error (.rpc .missingResult), n)
  close _ n := n

/-- A pool of three with one idle connection. -/
def warmWorld : World ListedDials MemoryStore :=
  { World.initial ⟨[.error (.dialFailed "refused"), .ok 1, .ok 2]⟩ 3 .empty with pool := ⟨3, [0], false⟩ }

/-- The second and the third dial fill the pool. -/
theorem prewarm_fills_after_failure :
    warmWorld.pool.closed = false ∧ warmWorld.pool.idle.length ≤ warmWorld.pool.capacity ∧
      ((Lease.prewarm 3).run warmWorld).2.pool.idle = [0, 1, 2] := by
  obtain ⟨-, -, ⟨kept, hpool, haccount, -⟩, -, -⟩ := prewarm_fills (w := warmWorld) rfl (by decide)
  have hkept : [1, 2] = kept ++ [] := haccount
  rw [List.append_nil] at hkept
  refine ⟨rfl, by decide, (congrArg Pool.idle hpool).trans ?_⟩
  rw [← hkept]
  rfl

end EvmClient
