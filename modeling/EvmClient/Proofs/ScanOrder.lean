import EvmClient.Node.Simulated
import EvmClient.Proofs.ScanTrail

/-
Scanning in order, and each block once.

   Ticks that come to their end, over a store in memory, whose writes do not fail: no pass is interrupted, so
   the passes go over one block after the other, and everything that is handed to the handler and everything
   that is written lies in them.

   1. `Trail.consecutive` — passes that were all written go over consecutive blocks, as wholes.
   2. `MemoryStore.Kept` — what the effects of a scan tell of the store.
   3. `scan_in_order` — the calls of the handler and the writes over a whole scan. -/
namespace EvmClient

namespace Trail
variable {base h : Nat} {log : List Pass}

theorem base_le (ht : Trail base log h) : base ≤ h := by
  induction ht with
  | nil => exact Nat.le_refl _
  | written _ _ _ _ ih => omega
  | failed _ _ _ _ hh ih => omega
  | cut _ _ _ _ ih => exact ih

/-- Passes that were all written go over consecutive blocks, as wholes. -/
theorem consecutive (ht : Trail base log h) (hall : ∀ p ∈ log, p.ending = .written) :
    log.reverse.map Pass.height = List.range' (base + 1) (h - base) ∧ ∀ p ∈ log, p.calls = p.due := by
  induction ht with
  | nil => exact ⟨by simp, fun _ hp => by cases hp⟩
  | @written log h p ht hnext hdone hend ih =>
    obtain ⟨hheights, hcalls⟩ := ih fun q hq => hall q (List.mem_cons_of_mem _ hq)
    have hbase := ht.base_le
    refine ⟨?_, fun q hq => ?_⟩
    · have hlength : h + 1 - base = h - base + 1 := by omega
      have hlast : base + 1 + (h - base) = h + 1 := by omega
      rw [List.reverse_cons, List.map_append, hheights, hlength, List.range'_1_concat, hlast]
      simp [hnext]
    · rcases List.mem_cons.1 hq with rfl | hq
      · exact hdone
      · exact hcalls q hq
  | @failed log h h' p _ _ _ hend _ _ =>
    have hwritten := hall p List.mem_cons_self
    rw [hend] at hwritten
    cases hwritten
  | @cut log h p _ _ _ hend _ =>
    have hwritten := hall p List.mem_cons_self
    rw [hend] at hwritten
    cases hwritten

end Trail

/-! ## The store in memory -/

/-- What the effects of a course tell of its store in memory, which began as another. -/
structure MemoryStore.Kept (s : MemoryStore) (c : Course MemoryStore) : Prop where
  writes : c.store.writes = s.writes ++ heightWrites true c.effects
  height : c.store.height = (heightWrites true c.effects).getLast?.getD s.height
  failures : heightWrites false c.effects = []

namespace MemoryStore.Kept
variable {s : MemoryStore} {c : Course MemoryStore}

/-- The store stays as it is where no height is written. -/
theorem unwritten (h : Kept s c) {e : Option Effect} (he : ∀ success, heightWrites success e.toList = [])
    {store : MemoryStore} (hwrites : store.writes = c.store.writes) (hheight : store.height = c.store.height) :
    Kept s ⟨c.effects ++ e.toList, store⟩ := by
  have hnone (success : Bool) : heightWrites success (c.effects ++ e.toList) = heightWrites success c.effects := by
    rw [heightWrites_append, he success, List.append_nil]
  refine ⟨?_, ?_, ?_⟩
  · rw [hnone, hwrites]
    exact h.writes
  · rw [hnone, hheight]
    exact h.height
  · rw [hnone]
    exact h.failures

theorem step (h : Kept s c) {op : Op} {r : op.Answer} {s' : MemoryStore} (hl : op.Leads c.store r s') :
    Kept s (c.step op r s') := by
  cases op with
  | writeHeight height =>
    cases hl
    refine ⟨?_, ?_, ?_⟩
    · show c.store.writes ++ [height] = s.writes ++ heightWrites true (c.effects ++ [.wrote height true])
      rw [heightWrites_append, ← List.append_assoc, ← h.writes]
      rfl
    · show height = (heightWrites true (c.effects ++ [.wrote height true])).getLast?.getD s.height
      rw [heightWrites_append, List.getLast?_append]
      rfl
    · show heightWrites false (c.effects ++ [.wrote height true]) = []
      rw [heightWrites_append, h.failures]
      rfl
  | append record =>
    cases hl
    exact h.unwritten (fun _ => rfl) rfl rfl
  | ask conn query =>
    cases hl
    refine h.unwritten (fun success => ?_) rfl rfl
    show heightWrites success (query.effect? r).toList = []
    rcases query.effect?_cases r with h | ⟨_, _, h⟩ <;> rw [h] <;> rfl
  | readHeight =>
    cases hl.2
    exact h.unwritten (fun _ => rfl) rfl rfl
  | _ =>
    cases hl
    exact h.unwritten (fun _ => rfl) rfl rfl

variable {α ν : Type} [Node ν]

theorem course (h : Kept s c) (p : Program α) (worlds : Nat → World ν MemoryStore) (limit : Option Nat) :
    Kept s (p.course worlds limit c) := by
  induction p generalizing worlds limit c with
  | done a => exact h
  | step op next ih =>
    rw [Program.course]
    split
    · exact h.unwritten (e := some .cut) (fun _ => rfl) rfl rfl
    · exact ih _ (h.step (perform_leads { worlds 0 with store := c.store } op)) _ _

end MemoryStore.Kept

/-! ## Whole scans -/

section Order
variable {ν : Type} [Node ν]

/-- Ticks one after the other over a store in memory, each to its end. -/
def wholeScan (start : Nat) (turns : List (Turn ν MemoryStore)) (s : MemoryStore) : Course MemoryStore :=
  scanCourse start (turns.map fun turn => (turn, none)) s

/-- What a course keeps while it is not cut, a whole scan keeps. -/
theorem wholeScan_induct {P : Course MemoryStore → Prop} (start : Nat) (turns : List (Turn ν MemoryStore)) {s : MemoryStore}
    (hnil : P ⟨[], s⟩)
    (hcourse : ∀ (p : Program (Except ClientError TickOutcome)) (worlds : Nat → World ν MemoryStore) c, P c →
      P (p.course worlds none c)) : P (wholeScan start turns s) := by
  have hrun : ∀ (turns : List (Turn ν MemoryStore)) (c : Course MemoryStore), P c →
      P ((turns.map fun turn => (turn, (none : Option Nat))).foldl (fun c (turn, limit) =>
        ({ turn.scanner with start }.tick turn.ctx).run.course turn.worlds limit c) c) := by
    intro turns
    induction turns with
    | nil => exact fun c hc => hc
    | cons turn rest ih => exact fun c hc => ih _ (hcourse _ turn.worlds c hc)
  exact hrun turns _ hnil

theorem wholeScan_uncut (start : Nat) (turns : List (Turn ν MemoryStore)) (s : MemoryStore) :
    .cut ∉ (wholeScan start turns s).effects :=
  wholeScan_induct start turns (P := fun c => .cut ∉ c.effects) List.not_mem_nil fun p worlds _ hc =>
    course_uncut p worlds hc

theorem wholeScan_kept (start : Nat) (turns : List (Turn ν MemoryStore)) (s : MemoryStore) :
    s.Kept (wholeScan start turns s) :=
  wholeScan_induct start turns ⟨(List.append_nil _).symm, rfl, rfl⟩ fun p worlds _ hc => hc.course p worlds none

theorem wholeScan_resting (start : Nat) (turns : List (Turn ν MemoryStore)) (s : MemoryStore) :
    Trail (max s.height start) (passes (wholeScan start turns s).effects)
        (max (wholeScan start turns s).store.height start) ∧
      Told (wholeScan start turns s).effects := scanCourse_resting start _ s

/-- Ticks that are not cut, over a store that does not fail, interrupt no pass. -/
theorem wholeScan_written (start : Nat) (turns : List (Turn ν MemoryStore)) (s : MemoryStore) :
    ∀ p ∈ passes (wholeScan start turns s).effects, p.ending = .written := by
  obtain ⟨htrail, htold⟩ := wholeScan_resting start turns s
  have hkept := wholeScan_kept start turns s
  intro p hp
  have hnone (e : Ending) (h : ((passes (wholeScan start turns s).effects).filter (·.ending = e)).length = 0) :
      p.ending ≠ e := by
    intro he
    have hmem : p ∈ (passes (wholeScan start turns s).effects).filter (·.ending = e) := by
      simpa [he] using hp
    rw [List.eq_nil_of_length_eq_zero h] at hmem
    cases hmem
  cases he : p.ending with
  | running => exact absurd he (htrail.settled p hp)
  | written => rfl
  | cut =>
    refine absurd he (hnone .cut ?_)
    have hcuts := htold.cuts
    rw [List.count_eq_zero.2 (wholeScan_uncut start turns s)] at hcuts
    exact Nat.le_zero.1 hcuts
  | failed =>
    refine absurd he (hnone .failed ?_)
    have hfailures := htold.writes false
    rw [hkept.failures] at hfailures
    have hlength := congrArg List.length hfailures
    rw [List.length_reverse, List.length_map] at hlength
    exact hlength.symm

/-- The heights that a whole scan writes follow on what it began with. -/
theorem wholeScan_writes (start : Nat) (turns : List (Turn ν MemoryStore)) (s : MemoryStore) :
    heightWrites true (wholeScan start turns s).effects =
      List.range' (max s.height start + 1) (max (wholeScan start turns s).store.height start - max s.height start) := by
  obtain ⟨htrail, htold⟩ := wholeScan_resting start turns s
  have hall := wholeScan_written start turns s
  have hfilter : (passes (wholeScan start turns s).effects).filter (·.ending = .ofWrite true) =
      passes (wholeScan start turns s).effects :=
    List.filter_eq_self.2 fun p hp => by simp [hall p hp, Ending.ofWrite]
  rw [htold.writes true, hfilter, ← List.map_reverse]
  exact (htrail.consecutive hall).1

/-- The height that a whole scan ends with is the last one that it wrote, or the old one where it wrote none. -/
theorem wholeScan_height (start : Nat) (turns : List (Turn ν MemoryStore)) (s : MemoryStore) :
    let height := (wholeScan start turns s).store.height
    height = s.height ∨ max s.height start < height := by
  intro height
  have hlast : height = (heightWrites true (wholeScan start turns s).effects).getLast?.getD s.height :=
    (wholeScan_kept start turns s).height
  rw [wholeScan_writes, List.getLast?_range'] at hlast
  split at hlast
  · exact .inl hlast
  · -- The last height of a range that is not empty lies behind the place where the range begins.
    rename_i hsome
    rw [Option.getD_some] at hlast
    right
    omega

/-- Over a whole scan, each block is served once, one after the other, from behind the height and the start that
the scan began with up to the height that it ends with. The handler is given all transactions of these blocks
in order, once each, and the heights that are written are theirs. -/
theorem scan_in_order (start : Nat) (turns : List (Turn ν MemoryStore)) (s : MemoryStore) :
    let c := wholeScan start turns s
    let first := max s.height start
    (servedBlocks c.effects).map Prod.fst = List.range' (first + 1) (max c.store.height first - first) ∧
      handlerCalls c.effects = (servedBlocks c.effects).flatMap (fun (_, block) => callsOf block block.transactions) ∧
      c.store.writes = s.writes ++ List.range' (first + 1) (c.store.height - first) ∧
      s.height ≤ c.store.height := by
  intro c first
  obtain ⟨htrail, htold⟩ := wholeScan_resting start turns s
  obtain ⟨hheights, hcalls⟩ := htrail.consecutive (wholeScan_written start turns s)
  have hfirst : first = max s.height start := rfl
  have hheight : c.store.height = s.height ∨ first < c.store.height := wholeScan_height start turns s
  -- What was written are the heights behind the first, whether the height is ahead of the start or not.
  have hcount : max c.store.height start - first = c.store.height - first := by omega
  have hcount' : max c.store.height first - first = c.store.height - first := by omega
  refine ⟨?_, ?_, ?_, by omega⟩
  · rw [servedBlocks_eq, List.map_map, hcount', ← hcount]
    exact hheights
  · rw [servedBlocks_eq, List.flatMap_map, htold.calls, List.flatMap_def, List.flatMap_def]
    exact congrArg List.flatten (List.map_congr_left fun p hp => hcalls p (List.mem_reverse.1 hp))
  · rw [← hcount, (wholeScan_kept start turns s).writes]
    exact congrArg (s.writes ++ ·) (wholeScan_writes start turns s)

/-- With blocks up to the fourth, two ticks from the first on scan the second and the third. -/
example :
    let node := [2, 3, 4].foldl (fun n h => n.addBlock (SimulatedNode.blockOf h [])) SimulatedNode.initial
    let turn : Turn SimulatedNode MemoryStore :=
      ⟨⟨0, 1, 0, fun _ _ _ => .success⟩, .background, fun _ => .initial node 0 .empty⟩
    (wholeScan 1 [turn, turn] .empty).store.writes = [2, 3] := by decide +kernel

end Order
end EvmClient
