import EvmClient.Proofs.ScanTrail

/-
The height that a scan keeps is never ahead of its work.

   A scan is cut off where it stands and taken up again over the same store, any number of times, and the
   store fails as it likes. At every moment the trail of its passes tells what was done:

   1. `Trail.covered` — the last pass over each block up to the kept height came to the block's end.
   2. `Trail.repeated` — a block is passed over again only after each earlier pass over it was interrupted.
   3. `Trail.repeats_le` — no interruption causes more than one block to be repeated. -/
namespace EvmClient

/-- How many passes go over a block that an earlier pass went over. -/
def repeats : List Pass → Nat
  | [] => 0
  | p :: log => (if log.any (·.height = p.height) then 1 else 0) + repeats log

namespace Trail
variable {base h : Nat} {log : List Pass}

/-- No pass is ahead of the height that is resumed from, but for one that was interrupted. -/
theorem height_le (ht : Trail base log h) : ∀ p ∈ log, p.height ≤ h ∨ p.height = h + 1 ∧ p.Interrupted := by
  induction ht with
  | nil => exact fun _ hp => by cases hp
  | written _ hnext _ _ ih =>
    intro q hq
    rcases List.mem_cons.1 hq with rfl | hq
    · exact .inl (by omega)
    · have hold := ih q hq
      exact .inl (by omega)
  | failed _ hnext _ hend hh ih =>
    intro q hq
    rcases List.mem_cons.1 hq with rfl | hq
    · have hinterrupted : q.Interrupted := .inr hend
      rcases hh with rfl | rfl
      · exact .inr ⟨hnext, hinterrupted⟩
      · exact .inl (by omega)
    · rcases hh with rfl | rfl
      · exact ih q hq
      · have hold := ih q hq
        exact .inl (by omega)
  | cut _ hnext _ hend ih =>
    intro q hq
    rcases List.mem_cons.1 hq with rfl | hq
    · exact .inr ⟨hnext, .inl hend⟩
    · exact ih q hq

/-- The last pass over each block up to the height that is resumed from came to the block's end. -/
theorem covered (ht : Trail base log h) {k : Nat} (hbase : base < k) (hk : k ≤ h) :
    ∃ p, log.find? (·.height = k) = some p ∧ p.calls = p.due := by
  -- A pass either goes over the block in question or leaves the passes over it as they were.
  have skip {p : Pass} {log : List Pass} (hne : p.height ≠ k) :
      (p :: log).find? (·.height = k) = log.find? (·.height = k) :=
    List.find?_cons_of_neg (by simpa using hne)
  have take {p : Pass} {log : List Pass} (heq : p.height = k) : (p :: log).find? (·.height = k) = some p :=
    List.find?_cons_of_pos (by simpa using heq)
  induction ht with
  | nil => omega
  | @written log h p ht hnext hdone _ ih =>
    by_cases hlast : k ≤ h
    · rw [skip (by omega)]
      exact ih hlast
    · exact ⟨_, take (by omega), hdone⟩
  | @failed log h h' p ht hnext hdone _ hh ih =>
    by_cases hlast : k ≤ h
    · rw [skip (by omega)]
      exact ih hlast
    · exact ⟨_, take (by omega), hdone⟩
  | cut ht hnext _ _ ih =>
    rw [skip (by omega)]
    exact ih hk

/-- A pass hands out the transactions of its block in their order. -/
theorem in_order (ht : Trail base log h) : ∀ p ∈ log, p.calls <+: p.due := by
  induction ht with
  | nil => exact fun _ hp => by cases hp
  | written _ _ hdone _ ih | failed _ _ hdone _ _ ih =>
    intro q hq
    rcases List.mem_cons.1 hq with rfl | hq
    · exact hdone ▸ List.prefix_refl q.calls
    · exact ih q hq
  | cut _ _ hsome _ ih =>
    intro q hq
    rcases List.mem_cons.1 hq with rfl | hq
    · exact hsome
    · exact ih q hq

/-- A block is passed over again only after each earlier pass over it was interrupted. -/
theorem repeated (ht : Trail base log h) :
    log.Pairwise fun later earlier => later.height = earlier.height → earlier.Interrupted := by
  induction ht with
  | nil => exact .nil
  | written ht hnext _ _ ih | failed ht hnext _ _ _ ih | cut ht hnext _ _ ih =>
    refine .cons (fun earlier hmem heq => ?_) ih
    rcases ht.height_le earlier hmem with hle | ⟨_, hinterrupted⟩
    · omega
    · exact hinterrupted

/-- No pass goes over the block after the next. -/
theorem none_ahead (ht : Trail base log h) {p : Pass} (hnext : p.height = h + 1) :
    (p :: log).any (·.height = h + 1 + 1) = false := by
  rw [List.any_eq_false]
  intro q hq
  have hle : q.height ≤ h + 1 := by
    rcases List.mem_cons.1 hq with rfl | hq
    · omega
    · have hold := ht.height_le q hq
      omega
  rw [decide_eq_true_eq]
  omega

/-- No interruption causes more than one block to be repeated. Where the next pass is to repeat one, the last
interruption has not caused a repetition yet. -/
theorem repeats_le (ht : Trail base log h) :
    repeats log + (if log.any (·.height = h + 1) then 1 else 0) ≤ log.countP (·.Interrupted) := by
  induction ht with
  | nil => exact Nat.le_refl 0
  | @written log h p ht hnext _ hend ih =>
    have hcount : (p :: log).countP (·.Interrupted) = log.countP (·.Interrupted) :=
      List.countP_cons_of_neg (by simp [Pass.Interrupted, hend])
    rw [ht.none_ahead hnext, hcount, repeats, hnext]
    simp only [Bool.false_eq_true, if_false]
    omega
  | @failed log h h' p ht hnext _ hend hh ih =>
    have hcount : (p :: log).countP (·.Interrupted) = log.countP (·.Interrupted) + 1 :=
      List.countP_cons_of_pos (by simp [Pass.Interrupted, hend])
    rw [hcount, repeats, hnext]
    -- The pass counts as interrupted itself, which covers a repetition that it may cause.
    have hopen : (if (p :: log).any (·.height = h' + 1) then 1 else 0) ≤ 1 := by split <;> omega
    omega
  | @cut log h p ht hnext _ hend ih =>
    have hcount : (p :: log).countP (·.Interrupted) = log.countP (·.Interrupted) + 1 :=
      List.countP_cons_of_pos (by simp [Pass.Interrupted, hend])
    rw [hcount, repeats, hnext]
    have hopen : (if (p :: log).any (·.height = h + 1) then 1 else 0) ≤ 1 := by split <;> omega
    omega

end Trail

/-- Passes are interrupted by cuts and by failed writes. -/
theorem Told.interrupted_le {t : List Effect} (ht : Told t) :
    (passes t).countP (·.Interrupted) ≤ t.count .cut + (heightWrites false t).length := by
  have hsplit : ∀ log : List Pass, log.countP (·.Interrupted) =
      (log.filter (·.ending = .cut)).length + (log.filter (·.ending = .failed)).length := by
    intro log
    induction log with
    | nil => rfl
    | cons p log ih =>
      simp only [Pass.Interrupted] at ih ⊢
      cases hp : p.ending <;> simp [hp, ih] <;> omega
  have hcuts := ht.cuts
  have hfailures : (heightWrites false t).length = ((passes t).filter (·.ending = .failed)).length := by
    rw [ht.writes false, List.length_reverse, List.length_map]
    rfl
  rw [hsplit (passes t), hfailures]
  omega

section Safety
variable {ν σ : Type} [Node ν] [CheckpointStore σ] [DurableStore σ]

/-- Over a store that may fail, ticks that may be cut leave this behind at every moment: the last pass over
each block up to the kept height has handed all its transactions to the handler; nothing is handed out but in
passes, in order; a block is passed over again only after each earlier pass was cut or its write failed; and
there are no more such repetitions than cuts and failed writes. -/
theorem checkpoint_never_ahead (start : Nat) (turns : List (Turn ν (FaultyStore σ) × Option Nat)) (s : FaultyStore σ) :
    let c := scanCourse start turns s
    let log := passes c.effects
    servedBlocks c.effects = log.reverse.map (fun p => (p.height, p.block)) ∧
    (∀ h, max (DurableStore.height s) start < h → h ≤ DurableStore.height c.store →
      ∃ p, log.find? (·.height = h) = some p ∧ p.calls = callsOf p.block p.block.transactions) ∧
    (∀ p ∈ log, p.calls <+: callsOf p.block p.block.transactions) ∧
    handlerCalls c.effects = log.reverse.flatMap Pass.calls ∧
    (log.Pairwise fun later earlier => later.height = earlier.height → earlier.ending = .cut ∨ earlier.ending = .failed) ∧
    repeats log ≤ c.effects.count .cut + (heightWrites false c.effects).length := by
  intro c log
  obtain ⟨htrail, htold⟩ := scanCourse_resting start turns s
  refine ⟨servedBlocks_eq _, fun h hbase hh => ?_, ?_, htold.calls, htrail.repeated, ?_⟩
  · exact htrail.covered hbase (Nat.le_trans hh (Nat.le_max_left _ _))
  · exact htrail.in_order
  · exact Nat.le_trans (Nat.le_trans (Nat.le_add_right _ _) htrail.repeats_le) htold.interrupted_le

end Safety
end EvmClient
