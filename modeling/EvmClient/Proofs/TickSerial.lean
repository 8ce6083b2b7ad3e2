import EvmClient.Node.Simulated
import EvmClient.Proofs.ScanOrder
import EvmClient.Proofs.TickLock
import Mathlib.Data.List.Induction
import Mathlib.Data.List.Pairwise

/-
Ticks at the same time do what ticks one after the other do.

   Any number of ticks of one scanner run at the same time over a store in memory. Their log is in the order of the
   lock, so the same steps are the course of a scan whose ticks follow one another, only the last of which may still
   be at work. What is known of such scans holds of these ticks, too.

   1. `scanCourse_of_order` — steps in order are the course of a scan.
   2. `Trail.consecutive_save_last` — a scan that is cut at its end only goes over consecutive blocks.
   3. `ticks_serialised` — both for ticks at the same time. -/
namespace EvmClient

/-! ## Steps in order are the course of a scan -/

section Courses
variable {ν σ : Type} [Node ν] [CheckpointStore σ]

/-- The heights of the blocks that were served. -/
def heightsServed (es : List (TaskStep ν σ)) : List Nat := (servedBlocks (effectsOf es)).map Prod.fst

theorem cut_not_mem_effectsOf (es : List (TaskStep ν σ)) : .cut ∉ effectsOf es := by
  intro h
  obtain ⟨e, -, he⟩ := List.mem_filterMap.1 h
  exact effect?_ne_cut e.op e.answer he

/-- The tick of a task as a turn of a scan, cut where the task stands. -/
def TaskSystem.turn (s : TaskSystem (Except ClientError TickOutcome) ν σ) (scanner : Scanner) (ctx : Nat → Context)
    (task : Nat) : Turn ν σ × Option Nat :=
  (⟨scanner, ctx task, worldsOf (s.stepsOf task) s.world⟩, (s.rest task).limit (s.stepsOf task))

variable {scanner : Scanner} {ctx : Nat → Context} {s : TaskSystem (Except ClientError TickOutcome) ν σ}

/-- Steps in order are the course of a scan. -/
theorem scanCourse_of_order (hran : ∀ i, (scanner.tick (ctx i)).run.Ran (s.stepsOf i) (s.rest i)) (tasks : List Nat)
    {store store' : σ} (hstore : Threaded store (tasks.flatMap s.stepsOf) store') :
    scanCourse scanner.start (tasks.map (s.turn scanner ctx)) store =
      ⟨tasks.flatMap fun i => effectsOf (s.stepsOf i) ++ (s.rest i).remnant, store'⟩ := by
  have hrun : ∀ (tasks : List Nat) (t : List Effect) (store : σ), Threaded store (tasks.flatMap s.stepsOf) store' →
      (tasks.map (s.turn scanner ctx)).foldl (fun c (turn, limit) =>
          ({ turn.scanner with start := scanner.start }.tick turn.ctx).run.course turn.worlds limit c) ⟨t, store⟩ =
        ⟨t ++ tasks.flatMap fun i => effectsOf (s.stepsOf i) ++ (s.rest i).remnant, store'⟩ := by
    intro tasks
    induction tasks with
    | nil =>
      rintro t store rfl
      simp
    | cons i tasks ih =>
      intro t store hstore
      obtain ⟨middle, hfirst, hrest⟩ := threaded_append.1 hstore
      have hothers := ih (t ++ effectsOf (s.stepsOf i) ++ (s.rest i).remnant) middle hrest
      rw [← (hran i).course s.world hfirst t] at hothers
      refine hothers.trans ?_
      simp only [List.flatMap_cons, List.append_assoc]
  exact (hrun tasks [] store hstore).trans (by rw [List.nil_append])

end Courses

/-! ## Scans that are cut at their end only -/

/-- Without a cut no pass is cut. -/
theorem passes_uncut {t : List Effect} (ht : .cut ∉ t) : ∀ p ∈ passes t, p.ending ≠ .cut := by
  -- Of all effects only a cut ends a pass in this way.
  have hnote (log : List Pass) (e : Effect) (he : e ≠ .cut) (hlog : ∀ p ∈ log, p.ending ≠ .cut) :
      ∀ p ∈ note log e, p.ending ≠ .cut := by
    cases e with
    | served height block => exact List.forall_mem_cons.2 ⟨by simp, hlog⟩
    | handled tx block =>
      cases log with
      | nil => exact hlog
      | cons p log => exact List.forall_mem_cons.2 (List.forall_mem_cons.1 hlog)
    | appended success => cases log <;> exact hlog
    | wrote height success =>
      cases log with
      | nil => exact hlog
      | cons p log =>
        obtain ⟨hp, hlog⟩ := List.forall_mem_cons.1 hlog
        refine List.forall_mem_cons.2 ⟨?_, hlog⟩
        split
        · cases success <;> simp [Ending.ofWrite]
        · exact hp
    | cut => exact absurd rfl he
  induction t using List.reverseRecOn with
  | nil => exact fun _ hp => by cases hp
  | append_singleton t e ih =>
    rw [List.mem_append, List.mem_singleton, not_or] at ht
    rw [passes_snoc]
    exact hnote _ e (Ne.symm ht.2) (ih ht.1)

/-- A cut at the end reaches the last pass only. -/
theorem passes_tail_uncut {t e : List Effect} (ht : .cut ∉ t) (he : e = [] ∨ e = [.cut]) :
    ∀ p ∈ (passes (t ++ e)).tail, p.ending ≠ .cut := by
  have huncut := passes_uncut ht
  rcases he with rfl | rfl
  · rw [List.append_nil]
    exact fun p hp => huncut p (List.mem_of_mem_tail hp)
  · rw [passes_snoc]
    cases hlog : passes t with
    | nil => exact fun _ hp => by cases hp
    | cons p log => exact fun q hq => huncut q (hlog ▸ List.mem_cons_of_mem p hq)

/-- Where no write fails and only the last pass may be cut, the passes go over consecutive blocks, and only the
last may have handed out less than its whole block. -/
theorem Trail.consecutive_save_last {base h : Nat} {log : List Pass} (ht : Trail base log h)
    (hfailed : ∀ p ∈ log, p.ending ≠ .failed) (hcut : ∀ p ∈ log.tail, p.ending ≠ .cut) :
    log.reverse.map Pass.height = List.range' (base + 1) log.length ∧
      log.reverse.flatMap Pass.calls <+: log.reverse.flatMap Pass.due ∧
      ∃ n, ((log.filter (·.ending = .written)).map Pass.height).reverse = List.range' (base + 1) n := by
  have hsettled := ht.settled
  -- Passes that were all written are dealt with already.
  have hwhole {h : Nat} {log : List Pass} (ht : Trail base log h) (hall : ∀ p ∈ log, p.ending = .written) :
      log.reverse.map Pass.height = List.range' (base + 1) log.length ∧ base + log.length = h ∧
        log.reverse.flatMap Pass.calls = log.reverse.flatMap Pass.due := by
    obtain ⟨hheights, hcalls⟩ := ht.consecutive hall
    have hlength := congrArg List.length hheights
    rw [List.length_map, List.length_reverse, List.length_range'] at hlength
    have hbase := ht.base_le
    refine ⟨by rw [hheights, hlength], by omega, List.flatMap_congr fun p hp => hcalls p (List.mem_reverse.1 hp)⟩
  have hwritten (p : Pass) (hp : p ∈ log) (hcut : p.ending ≠ .cut) : p.ending = .written := by
    have hrunning := hsettled p hp
    have hfailed := hfailed p hp
    cases he : p.ending <;> simp_all
  have hfilter {log : List Pass} (hall : ∀ p ∈ log, p.ending = .written) :
      log.filter (·.ending = .written) = log := List.filter_eq_self.2 fun p hp => by simp [hall p hp]
  cases log with
  | nil => exact ⟨rfl, List.prefix_refl _, 0, rfl⟩
  | cons p log =>
    have hlog : ∀ q ∈ log, q.ending = .written := fun q hq => hwritten q (List.mem_cons_of_mem p hq) (hcut q hq)
    by_cases hp : p.ending = .cut
    · cases ht with
      | written _ _ _ hend => rw [hend] at hp; cases hp
      | failed _ _ _ hend _ => rw [hend] at hp; cases hp
      | cut ht hnext hsome _ =>
        obtain ⟨hheights, hlast, hcalls⟩ := hwhole ht hlog
        refine ⟨?_, ?_, log.length, ?_⟩
        · rw [List.reverse_cons, List.map_append, hheights, List.length_cons, List.range'_1_concat]
          have hheight : h + 1 = base + 1 + log.length := by omega
          simp [hnext, hheight]
        · rw [List.reverse_cons, List.flatMap_append, List.flatMap_append, hcalls]
          exact (List.prefix_append_right_inj _).2 (by simpa using hsome)
        · rw [List.filter_cons_of_neg (by simp [hp]), hfilter hlog, ← List.map_reverse]
          exact hheights
    · have hall : ∀ q ∈ p :: log, q.ending = .written :=
        List.forall_mem_cons.2 ⟨hwritten p List.mem_cons_self hp, hlog⟩
      obtain ⟨hheights, -, hcalls⟩ := hwhole ht hall
      refine ⟨hheights, hcalls ▸ List.prefix_refl _, (p :: log).length, ?_⟩
      rw [hfilter hall, ← List.map_reverse]
      exact hheights

section Serial
variable {ν : Type} [Node ν]

theorem scanCourse_kept (start : Nat) (turns : List (Turn ν MemoryStore × Option Nat)) (s : MemoryStore) :
    s.Kept (scanCourse start turns s) :=
  List.foldlRecOn turns _ ⟨(List.append_nil _).symm, rfl, rfl⟩ fun _ hc turn _ => hc.course _ turn.1.worlds turn.2

/-- What a scan does that is cut at its end only. -/
theorem scan_save_last (start : Nat) (turns : List (Turn ν MemoryStore × Option Nat)) (s : MemoryStore)
    {t e : List Effect} (heffects : (scanCourse start turns s).effects = t ++ e) (ht : .cut ∉ t)
    (he : e = [] ∨ e = [.cut]) :
    (∃ n, (servedBlocks t).map Prod.fst = List.range' (max s.height start + 1) n) ∧
      handlerCalls t <+: (servedBlocks t).flatMap (fun (_, block) => callsOf block block.transactions) ∧
      ∃ n, heightWrites true t = List.range' (max s.height start + 1) n ∧
        (scanCourse start turns s).store.writes = s.writes ++ List.range' (max s.height start + 1) n := by
  obtain ⟨htrail, htold⟩ := scanCourse_resting start turns s
  have hkept := scanCourse_kept start turns s
  have hwrites := hkept.writes
  have hfailures := hkept.failures
  rw [heffects] at htrail htold hwrites hfailures
  -- A cut at the end is no block, no call and no write.
  have hserved : servedBlocks (t ++ e) = servedBlocks t := by
    rcases he with rfl | rfl <;> simp [servedBlocks, Effect.served?]
  have hcalls : handlerCalls (t ++ e) = handlerCalls t := by
    rcases he with rfl | rfl <;> simp [Effect.call?]
  have hwritten (success : Bool) : heightWrites success (t ++ e) = heightWrites success t := by
    rcases he with rfl | rfl <;> simp [Effect.write?]
  have hfailed : ∀ p ∈ passes (t ++ e), p.ending ≠ .failed := by
    intro p hp hend
    have hnone := htold.writes false
    rw [hfailures] at hnone
    have hmem : p ∈ (passes (t ++ e)).filter (·.ending = .ofWrite false) := by simpa [hend, Ending.ofWrite] using hp
    rw [List.map_eq_nil_iff.1 (List.reverse_eq_nil_iff.1 hnone.symm)] at hmem
    cases hmem
  obtain ⟨hheights, hprefix, n, hn⟩ := htrail.consecutive_save_last hfailed (passes_tail_uncut ht he)
  have hblocks := servedBlocks_eq (t ++ e)
  have hall : heightWrites true t = List.range' (max s.height start + 1) n := by
    rw [← hwritten, htold.writes true]
    exact hn
  refine ⟨⟨(passes (t ++ e)).length, ?_⟩, ?_, n, hall, ?_⟩
  · rw [← hserved, hblocks, List.map_map]
    exact hheights
  · rw [← hserved, ← hcalls, htold.calls, hblocks, List.flatMap_map]
    exact hprefix
  · rw [hwrites, hwritten, hall]

/-- Of the effects of tasks in order only the last may be a cut, if all tasks but the last have ended. -/
theorem order_effects {α σ : Type} [CheckpointStore σ] (s : TaskSystem α ν σ) (tasks : List Nat)
    (hended : ∀ i ∈ tasks.dropLast, s.Finished i) :
    ∃ e, (e = [] ∨ e = [.cut]) ∧
      (tasks.flatMap fun i => effectsOf (s.stepsOf i) ++ (s.rest i).remnant) =
        effectsOf (tasks.flatMap s.stepsOf) ++ e := by
  have hsplit : ∀ tasks : List Nat, effectsOf (tasks.flatMap s.stepsOf) = tasks.flatMap fun i => effectsOf (s.stepsOf i) :=
    fun tasks => List.filterMap_flatMap
  rcases List.eq_nil_or_concat tasks with rfl | ⟨front, last, rfl⟩
  · exact ⟨[], .inl rfl, rfl⟩
  · rw [List.concat_eq_append] at hended ⊢
    rw [List.dropLast_concat] at hended
    refine ⟨(s.rest last).remnant, ?_, ?_⟩
    · unfold Program.remnant
      split
      · exact .inl rfl
      · exact .inr rfl
    · have hfront : (front.flatMap fun i => effectsOf (s.stepsOf i) ++ (s.rest i).remnant) =
          front.flatMap fun i => effectsOf (s.stepsOf i) := by
        refine List.flatMap_congr fun i hi => ?_
        have hdone : (s.rest i).isDone = true := hended i hi
        rw [Program.remnant, if_pos hdone, List.append_nil]
      rw [hsplit, List.flatMap_append, List.flatMap_append, hfront]
      simp

/-! ## Ticks at the same time -/

section Ticks
variable {scanner : Scanner} {ctx : Nat → Context} {s : TaskSystem (Except ClientError TickOutcome) ν MemoryStore}

theorem Serial.ended (hserial : Serial scanner s)
    (hran : ∀ i, (scanner.tick (ctx i)).run.Ran (s.stepsOf i) (s.rest i)) : ∀ i ∈ s.order.dropLast, s.Finished i := by
  intro i hi
  refine (hran i).tick_ended.2 ?_
  rcases hserial.lock with ⟨-, hall⟩ | ⟨front, last, horder, hfront, -, -⟩
  · exact hall i (List.dropLast_subset _ hi)
  · rw [horder, List.dropLast_concat] at hi
    exact hfront i hi

/-- A tick hands out transactions of the blocks that were served to it. -/
theorem Serial.calls (hserial : Serial scanner s)
    (hran : ∀ i, (scanner.tick (ctx i)).run.Ran (s.stepsOf i) (s.rest i)) {store : MemoryStore}
    (hstore : Threaded store s.log s.world.store) (i : Nat) :
    handlerCalls (effectsOf (s.stepsOf i)) <+:
      (servedBlocks (effectsOf (s.stepsOf i))).flatMap fun (_, block) => callsOf block block.transactions := by
  by_cases hi : i ∈ s.order
  · -- The tick by itself is a scan over the store that it found.
    obtain ⟨front, back, hsplit⟩ := List.append_of_mem hi
    rw [hserial.log, hsplit, List.flatMap_append, List.flatMap_cons] at hstore
    obtain ⟨found, -, hrest⟩ := threaded_append.1 hstore
    obtain ⟨left, hown, -⟩ := threaded_append.1 hrest
    have hcourse := scanCourse_of_order hran [i] (by simpa using hown)
    obtain ⟨e, he, heffects⟩ := order_effects s [i] (fun _ h => by cases h)
    rw [heffects, List.flatMap_singleton] at hcourse
    exact (scan_save_last scanner.start _ found (congrArg Course.effects hcourse) (cut_not_mem_effectsOf _) he).2.1
  · rw [hserial.uncalled i hi]
    exact List.prefix_refl _

/-- No two ticks are served the same height if no height is served twice. -/
theorem Serial.served_disjoint (hserial : Serial scanner s) (hserved : (heightsServed s.log).Nodup) {i j : Nat}
    (hij : i ≠ j) : (heightsServed (s.stepsOf i)).Disjoint (heightsServed (s.stepsOf j)) := by
  by_cases hi : i ∈ s.order
  · by_cases hj : j ∈ s.order
    · have hsplit : heightsServed s.log = s.order.flatMap fun i => heightsServed (s.stepsOf i) := by
        rw [hserial.log]
        unfold heightsServed servedBlocks effectsOf
        rw [List.filterMap_flatMap, List.filterMap_flatMap, List.map_flatMap]
      rw [hsplit] at hserved
      have hsymm : Std.Symm (Function.onFun List.Disjoint fun i => heightsServed (s.stepsOf i)) :=
        ⟨fun _ _ h _ hi hj => h hj hi⟩
      exact (List.nodup_flatMap.1 hserved).2.forall hi hj hij
    · rw [hserial.uncalled j hj]
      exact List.disjoint_nil_right _
  · rw [hserial.uncalled i hi]
    exact List.disjoint_nil_left _

end Ticks

/-- Ticks of one scanner at the same time, over a store in memory. The log is put together from the logs of single
ticks, in the order in which they took the lock, and all but the last of these have ended. A scan whose ticks follow
one another in this order has the same effects and leaves the same store. Each tick hands out transactions of the
blocks that were served to it, in their order; no two are served the same block; and the heights of all blocks, and
all heights that are written, follow on what the store began with, one after another. -/
theorem ticks_serialised (scanner : Scanner) (ctx : Nat → Context) (w : World ν MemoryStore)
    (moves : List (TaskMove ν MemoryStore)) :
    let s := (TaskSystem.ticks (fun _ => scanner) ctx w).run moves
    let c := scanCourse scanner.start (s.order.map (s.turn scanner ctx)) w.store
    let first := max w.store.height scanner.start
    (s.log = s.order.flatMap s.stepsOf ∧ s.order.Nodup ∧ ∀ i ∈ s.order.dropLast, s.Finished i) ∧
      (c.effects.filter (· ≠ .cut) = effectsOf s.log ∧ c.store = s.world.store) ∧
      (∀ i, handlerCalls (effectsOf (s.stepsOf i)) <+:
        (servedBlocks (effectsOf (s.stepsOf i))).flatMap fun (_, block) => callsOf block block.transactions) ∧
      (∀ i j, i ≠ j → (heightsServed (s.stepsOf i)).Disjoint (heightsServed (s.stepsOf j))) ∧
      (∃ n, heightsServed s.log = List.range' (first + 1) n) ∧
      ∃ n, heightWrites true (effectsOf s.log) = List.range' (first + 1) n ∧
        s.world.store.writes = w.store.writes ++ List.range' (first + 1) n := by
  intro s c first
  have htraced : s.Traced (fun i => (scanner.tick (ctx i)).run) w.store := TaskSystem.run_traced _ w moves
  have hserial : Serial scanner s := ticks_serial scanner ctx w moves
  have hended := hserial.ended htraced.ran
  have hthreaded := htraced.threaded
  rw [hserial.log] at hthreaded
  have hcourse : c = ⟨_, s.world.store⟩ := scanCourse_of_order htraced.ran s.order hthreaded
  obtain ⟨e, he, heffects⟩ := order_effects s s.order hended
  rw [heffects, ← hserial.log] at hcourse
  have hstore : c.store = s.world.store := congrArg Course.store hcourse
  obtain ⟨hserved, -, n, hwritten, hwrites⟩ := scan_save_last scanner.start (s.order.map (s.turn scanner ctx)) w.store
    (congrArg Course.effects hcourse) (cut_not_mem_effectsOf _) he
  refine ⟨⟨hserial.log, hserial.nodup, hended⟩, ⟨?_, hstore⟩, hserial.calls htraced.ran htraced.threaded,
    fun i j hij => hserial.served_disjoint ?_ hij, hserved, n, hwritten, hstore ▸ hwrites⟩
  · have huncut : (effectsOf s.log).filter (· ≠ .cut) = effectsOf s.log := by
      refine List.filter_eq_self.2 fun effect h => decide_eq_true ?_
      rintro rfl
      exact cut_not_mem_effectsOf _ h
    rw [hcourse, List.filter_append, huncut]
    rcases he with rfl | rfl <;> simp
  · obtain ⟨n, hn⟩ := hserved
    unfold heightsServed
    rw [hn]
    exact List.nodup_range'

/-- The second tick begins to wait in a pause of the first. While both are under way two blocks come to the chain,
and these are the ones that it is served. -/
example :
    let chain (n : Nat) := (List.range' 1 n).foldl (fun node h => node.addBlock (SimulatedNode.blockOf h [])) .initial
    let world (n : Nat) : World SimulatedNode MemoryStore := .initial (chain n) 0 .empty
    let s := (TaskSystem.ticks (fun _ => ⟨0, 0, 1000, fun _ _ _ => .success⟩) (fun _ => .background) (world 4)).run
      (List.replicate 10 (.step 0) ++ List.replicate 5 (.step 1) ++ [.outside (world 6)] ++ List.replicate 15 (.step 0) ++
        List.replicate 20 (.step 1))
    s.order = [0, 1] ∧ heightsServed (s.stepsOf 0) = [1, 2, 3] ∧ heightsServed (s.stepsOf 1) = [4, 5] := by
  decide +kernel

end Serial
end EvmClient
