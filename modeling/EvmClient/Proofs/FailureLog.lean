import EvmClient.Node.Simulated
import EvmClient.Proofs.FaultyFiles
import EvmClient.Proofs.TickProtocol

/-
Failures are recorded, as far as the log can be written.

   Where the handler fails, a tick appends the record next, before anything else. It does not look at what comes of
   the append: one that fails is let go, the block's height is written all the same, and the block is not gone over
   again. So a failure is recorded if its append works, and is lost if not; nor can its record be made out if an
   append that failed before left a part of a line in front of it.

   1. `Program.Ran.record_next` — the append of the record is the second step after a failure.
   2. `failures_logged` — what became of the record of each failure, for ticks at the same time over one store.
   3. `failure_lost` — a height is kept behind a failure that is recorded nowhere. -/
namespace EvmClient

section Tick
variable {ν σ : Type} [Node ν] [CheckpointStore σ] {scanner : Scanner} {ctx : Context}

theorem TickMove.owed {k k' : TickState} {handler : Handler} {tx : Transaction} {block : Block} {causes : List String}
    (h : TickMove scanner k (.handle handler tx block) (some causes) k') :
    ∃ last left, k' = .owing last block left tx causes := by
  cases h with
  | failed last _ _ left _ => exact ⟨last, left, rfl⟩
  | idle _ hidle => exact absurd hidle id

/-- A tick that does not stop here goes on with a step that may come where it stands. -/
theorem Program.Ran.tick_goes_on {before after : List (TaskStep ν σ)} {p : Program (Except ClientError TickOutcome)}
    (h : (scanner.tick ctx).run.Ran (before ++ after) p) (hstate : tickState scanner before ≠ .released)
    (hmore : p.isDone = true ∨ after ≠ []) :
    ∃ e rest, after = e :: rest ∧ (tickState scanner before).Allows scanner e.op := by
  cases after with
  | nil =>
    rw [List.append_nil] at h
    exact absurd (h.tick_ended.1 (hmore.resolve_right fun hnil => hnil rfl)) hstate
  | cons e rest => exact ⟨e, rest, rfl, h.tick_allowed⟩

/-- After a failure come the question for the time and the append of the record, unless the tick stands between. -/
theorem Program.Ran.record_next {before after : List (TaskStep ν σ)} {call : TaskStep ν σ} {handler : Handler}
    {tx : Transaction} {block : Block} {causes : List String} {p : Program (Except ClientError TickOutcome)}
    (h : (scanner.tick ctx).run.Ran (before ++ call :: after) p)
    (hcall : call.exchange = ⟨.handle handler tx block, some causes⟩)
    (hmore : p.isDone = true ∨ ∃ later ∈ after, ∃ height, later.op = .writeHeight height) :
    ∃ asked told rest time, after = asked :: told :: rest ∧ asked.exchange = ⟨.clock, time⟩ ∧
      told.op = .append (.ofTransaction tx block (Verdict.text causes) time) := by
  obtain ⟨task, found, op⟩ := call
  obtain ⟨rfl, hanswer⟩ := Sigma.mk.inj hcall
  -- The failed call leaves the record owing.
  have hmove := h.tick_allowed.move (TaskStep.answer ⟨task, found, .handle handler tx block⟩)
  rw [eq_of_heq hanswer] at hmove
  obtain ⟨last, left, howing⟩ := hmove.owed
  rw [← eq_of_heq hanswer, ← tickState_snoc] at howing
  rw [List.append_cons] at h
  -- The time is asked for.
  obtain ⟨asked, after, rfl, hclock⟩ := h.tick_goes_on (by simp [howing])
    (hmore.imp_right fun ⟨_, hmem, _⟩ => List.ne_nil_of_mem hmem)
  rw [howing] at hclock
  obtain ⟨task', found', op'⟩ := asked
  obtain rfl : op' = .clock := hclock
  have hdated := tickState_snoc scanner (before ++ [⟨task, found, .handle handler tx block⟩]) ⟨task', found', .clock⟩
  rw [howing] at hdated
  rw [List.append_cons] at h
  -- The record is appended.
  have hmore' : p.isDone = true ∨ after ≠ [] := by
    refine hmore.imp_right ?_
    rintro ⟨later, hmem, height, hlater⟩
    rcases List.mem_cons.1 hmem with rfl | hmem
    · cases hlater
    · exact List.ne_nil_of_mem hmem
  have hunreleased : tickState scanner (before ++ [⟨task, found, .handle handler tx block⟩] ++
      [⟨task', found', .clock⟩]) ≠ .released := by
    rw [hdated]
    intro hreleased
    cases hreleased
  obtain ⟨told, rest, rfl, happend⟩ := h.tick_goes_on hunreleased hmore'
  rw [hdated] at happend
  exact ⟨_, told, rest, _, rfl, rfl, happend⟩

end Tick

section Log
variable {ν : Type} [Node ν]

/-- Ticks at the same time of any scanners that share one store, over files whose appends and height writes may fail.
As long as no append has failed, the log ends with a line, if it did so at first. For each failure of the handler, in a
tick that has ended or has written a height since, the next but one step was the append of its record, which names the
transaction, the height that its block states and the reason. The record is on a line of the log by itself, unless this
append failed or found the log in the middle of a line. -/
theorem failures_logged (scanner : Nat → Scanner) (ctx : Nat → Context) (w : World ν FaultyFiles)
    (moves : List (TaskMove ν FaultyFiles)) :
    let s := (TaskSystem.ticks scanner ctx w).run moves
    (∀ before e after, s.log = before ++ e :: after → EndsLine w.store.files.log →
      (∀ earlier ∈ before, earlier.appendFails = false) → EndsLine e.found.store.files.log) ∧
    ∀ i before call after tx block causes, s.stepsOf i = before ++ call :: after →
      call.exchange = ⟨.handle (scanner i).handler tx block, some causes⟩ →
      (s.Finished i ∨ ∃ later ∈ after, ∃ height, later.op = .writeHeight height) →
        ∃ asked told rest time, after = asked :: told :: rest ∧ asked.exchange = ⟨.clock, time⟩ ∧
          let record := FailedRecord.ofTransaction tx block (Verdict.text causes) time
          told.op = .append record ∧
            (told.appendFails = true ∨ ¬ EndsLine told.found.store.files.log ∨
              Logged s.world.store.files.log record) := by
  intro s
  have htraced : s.Traced (fun i => ((scanner i).tick (ctx i)).run) w.store := TaskSystem.run_traced _ w moves
  refine ⟨fun before e after hlog hends hworks => ?_, fun i before call after tx block causes hsteps hcall hmore => ?_⟩
  · have hthreaded := htraced.threaded
    rw [hlog] at hthreaded
    obtain ⟨found, hbefore, hfound, -⟩ := threaded_append.1 hthreaded
    rw [hfound]
    exact endsLine_threaded hbefore hends hworks
  · have hran := htraced.ran i
    rw [hsteps] at hran
    obtain ⟨asked, told, rest, time, rfl, hasked, htold⟩ := hran.record_next hcall hmore
    refine ⟨asked, told, rest, time, rfl, hasked, htold, ?_⟩
    -- What was appended stays in the log.
    have hmem : told ∈ s.log := by
      have hmem : told ∈ s.stepsOf i := by simp [hsteps]
      exact List.mem_of_mem_filter hmem
    obtain ⟨front, back, hlog⟩ := List.append_of_mem hmem
    have hthreaded := htraced.threaded
    rw [hlog] at hthreaded
    obtain ⟨_, -, -, hrest⟩ := threaded_append.1 hthreaded
    have hgrows := log_prefix hrest
    by_cases hends : EndsLine told.found.store.files.log
    · cases hfails : told.appendFails with
      | true => exact .inl rfl
      | false => exact .inr (.inr ((append_logged htold hfails hends).mono hgrows))
    · exact .inr (.inl hends)

end Log

/-! ## One tick -/

/-- A scanner from the first block on whose handler fails. -/
def failingScanner : Scanner := ⟨0, 1, 0, fun _ _ _ => ⟨some ["boom"], []⟩⟩

/-- The second block, with two transactions. -/
def failingBlock : Block :=
  SimulatedNode.blockOf 2 [SimulatedNode.transactionOf 7 default default 1, SimulatedNode.transactionOf 8 default default 1]

/-- Over this block and one behind it, an empty store whose appends have these fates. -/
def failingWorld (appends : List FileFate) : World SimulatedNode FaultyFiles :=
  let node := (SimulatedNode.initial.addBlock failingBlock).addBlock (SimulatedNode.blockOf 3 [])
  .initial node 0 ⟨⟨.empty⟩, appends, []⟩

/-- The tick of this scanner, by itself and to its end. -/
def failingTick (appends : List FileFate) : TaskSystem (Except ClientError TickOutcome) SimulatedNode FaultyFiles :=
  (TaskSystem.ticks (fun _ => failingScanner) (fun _ => .background) (failingWorld appends)).run
    (List.replicate 20 (.step 0))

/-- Where no append fails, the first failure is recorded, with its height. -/
theorem failures_logged_first :
    ∃ record, record.hash = FixedBytes.ofNat 32 7 ∧ record.height = 2 ∧
      Logged (failingTick []).world.store.files.log record := by
  have hlength : 8 < ((failingTick []).stepsOf 0).length := by decide +kernel
  have hdone : ((failingTick []).rest 0).isDone = true := by decide +kernel
  have hworks : ∀ e ∈ (failingTick []).log, e.appendFails = false := by decide +kernel
  have hsteps : (failingTick []).stepsOf 0 = _ ++ ((failingTick []).stepsOf 0)[8] :: _ :=
    (List.take_append_drop 8 _).symm.trans (congrArg _ (List.drop_eq_getElem_cons hlength))
  have hcall : ((failingTick []).stepsOf 0)[8].exchange = ⟨.handle failingScanner.handler
      (SimulatedNode.transactionOf 7 default default 1) failingBlock, some ["boom"]⟩ := rfl
  obtain ⟨hends, hlogged⟩ := failures_logged (fun _ => failingScanner) (fun _ => .background) (failingWorld [])
    (List.replicate 20 (.step 0))
  obtain ⟨asked, told, rest, time, hafter, -, -, hrecord⟩ := hlogged 0 _ _ _ _ _ _ hsteps hcall (.inl hdone)
  have hmem : told ∈ (failingTick []).log := by
    refine List.mem_of_mem_filter (hsteps ▸ List.mem_append_right _ (List.mem_cons_of_mem _ ?_))
    rw [hafter]
    exact List.mem_cons_of_mem _ List.mem_cons_self
  obtain ⟨before, after, hsplit⟩ := List.append_of_mem hmem
  rcases hrecord with hfails | hmiddle | hrecord
  · rw [hworks told hmem] at hfails
    cases hfails
  · exact absurd (hends before told after hsplit (.inl rfl) fun e he =>
      hworks e (hsplit ▸ List.mem_append_left _ he)) hmiddle
  · exact ⟨_, rfl, rfl, hrecord⟩

/-- The disk is full when the first record is appended, of which one byte is left, and has room again for the second.
The tick ends with the height kept, both calls failed, and no record is on a line of the log. -/
theorem failure_lost :
    let s := failingTick [.fails (.io "No space left on device") 1]
    s.Finished 0 ∧ s.world.store.files.height = 2 ∧
      s.world.handled.map (fun (tx, block) => (tx.hash.toNat, block.number)) = [(7, 2), (8, 2)] ∧
      ∀ record, ¬ Logged s.world.store.files.log record := by
  have hrun : let s := failingTick [.fails (.io "No space left on device") 1]
      (s.rest 0).isDone = true ∧ s.world.store.files.height = 2 ∧
        s.world.handled.map (fun (tx, block) => (tx.hash.toNat, block.number)) = [(7, 2), (8, 2)] ∧
        lineFeed ∉ s.world.store.files.log.dropLast ∧ s.world.store.files.log[1]? ≠ some 0x22 := by decide +kernel
  obtain ⟨hdone, hheight, hcalls, hline, hhead⟩ := hrun
  exact ⟨hdone, hheight, hcalls, not_logged hline hhead⟩

end EvmClient
