import EvmClient.Proofs.FacadeCalls
import EvmClient.Proofs.TickReport
import EvmClient.Proofs.TickTimes

/-
When a scan ticks, and when it ends.

   A scan waits until its next tick is due, ticks, and goes on whatever the tick answered. As long as a tick does not
   pause between blocks, it is over at the instant at which it began; then no tick is late, and the next one is due a
   period later. So the instants of a scan are known before it starts, and what a tick finds is what the one before it
   left, but for the events in between.

   1. `Program.Only.undelayed`, `Program.Only.unscheduled` — programs that take no time do not look at what is to come.
   2. `tick_locked` — the steps of a tick; `tick_undelayed` — one without pauses is such a program.
   3. `tickWorld_polled` — where the ticks of a scan begin.
   4. `Went.spent`, `Went.ended`, `Went.ticked` — what one poll adds, by its outcome; `poll_goes` — any number of polls.
   5. `tick_height` — the height that a tick leaves whose blocks are all there.
   6. `scan_ticks_until_done` — the whole scan, by the time at which its context gets done. -/
namespace EvmClient

/-! ## Programs that take no time -/

/-- A step that takes no time and no lock, and leaves a context as it is. -/
def Op.Prompt (ctx : Context) : Op → Prop
  | .pause _ _ | .lock _ => False
  | .handle handler _ _ => handler.Spares ctx
  | _ => True

/-- The lock that a step takes. -/
def Op.lock? : Op → Option Nat
  | .lock id => some id
  | _ => none

section Prompt
variable {α β ν σ : Type} {ctx : Context} {T : ℕ∞}

/-- The time is the same, and so is what is to come for a context. -/
structure Undelayed (ctx : Context) (w w' : World ν σ) : Prop where
  now : w'.now = w.now
  agenda : w'.agenda = w.agenda
  signals : w.SameFor ctx w'.signals

namespace Undelayed
variable {w w' w'' : World ν σ}

theorem refl (w : World ν σ) : Undelayed ctx w w := ⟨rfl, rfl, fun _ _ => ⟨rfl, rfl⟩⟩

theorem trans (h : Undelayed ctx w w') (h' : Undelayed ctx w' w'') : Undelayed ctx w w'' := by
  refine ⟨h'.now.trans h.now, h'.agenda.trans h.agenda, fun g hg => ?_⟩
  obtain ⟨hcancelled, hlive⟩ := h.signals g hg
  obtain ⟨hcancelled', hlive'⟩ := h'.signals g hg
  exact ⟨hcancelled'.trans hcancelled, hlive'.trans hlive⟩

theorem ordered (h : Undelayed ctx w w') (hw : w.Ordered) : w'.Ordered := by
  rw [World.Ordered, h.agenda]
  exact hw

theorem doneFrom (h : Undelayed ctx w w') (hw : w.DoneFrom ctx T) : w'.DoneFrom ctx T := by
  intro t ht
  have hdone := h.signals.doneAt t
  rw [World.doneAt, h.agenda]
  rw [h.now] at ht
  exact (Bool.eq_iff_iff.1 hdone).trans (hw t ht)

end Undelayed

variable [Node ν] [CheckpointStore σ]

theorem Op.Prompt.undelayed {op : Op} (h : op.Prompt ctx) (w : World ν σ) : Undelayed ctx w (w.perform op).2 := by
  cases op with
  | pause _ _ | lock _ => exact absurd h id
  | handle handler tx block => exact ⟨rfl, rfl, fun g hg => Signals.cancelAll_others (h g hg _ tx block) w.signals⟩
  | _ => exact ⟨rfl, rfl, fun _ _ => ⟨rfl, rfl⟩⟩

theorem Op.Prompt.unscheduled {op : Op} (h : op.Prompt ctx) (agenda : List (Nat × Event ν)) (w : World ν σ) :
    ({ w with agenda } : World ν σ).perform op = ((w.perform op).1, { (w.perform op).2 with agenda }) := by
  cases op with
  | pause _ _ | lock _ => exact absurd h id
  | _ => rfl

theorem Program.Only.undelayed {p : Program α} (hp : p.Only (Op.Prompt ctx)) (w : World ν σ) :
    Undelayed ctx w (p.run w).2 := by
  induction p generalizing w with
  | done a => exact .refl w
  | step op next ih => exact (hp.1.undelayed w).trans (ih _ (hp.2 _ () trivial) _)

/-- The events that are to come make no difference. -/
theorem Program.Only.unscheduled {p : Program α} (hp : p.Only (Op.Prompt ctx)) (agenda : List (Nat × Event ν))
    (w : World ν σ) : p.run { w with agenda } = ((p.run w).1, { (p.run w).2 with agenda }) := by
  induction p generalizing w with
  | done a => rfl
  | step op next ih =>
    have hrest := ih _ (hp.2 (w.perform op).1 () trivial) (w.perform op).2
    rw [Program.run, hp.1.unscheduled agenda w]
    exact hrest

/-- The worlds in which steps took a lock. -/
def foundAtLock {ν σ : Type} (id : Nat) (es : List (TaskStep ν σ)) : List (World ν σ) :=
  (es.filter fun e => e.op.lock? = some id).map TaskStep.found

omit [Node ν] [CheckpointStore σ] in
theorem foundAtLock_append (id : Nat) (es es' : List (TaskStep ν σ)) :
    foundAtLock id (es ++ es') = foundAtLock id es ++ foundAtLock id es' := by
  rw [foundAtLock, List.filter_append, List.map_append]
  rfl

theorem Program.Only.takes_no_lock {p : Program α} (hp : p.Only (·.lock? = none)) (lock : Nat) (w : World ν σ) :
    foundAtLock lock (p.steps w) = [] := by
  have hnone : ∀ e ∈ p.steps w, ¬decide (e.op.lock? = some lock) = true := by
    intro e he
    rw [hp.all_steps w e he]
    exact Bool.false_ne_true
  rw [foundAtLock, List.filter_eq_nil_iff.2 hnone, List.map_nil]

/-! ## The tick -/

section Tick
variable {s : Scanner}

theorem Op.OfLease.prompt {op : Op} (h : op.OfLease) : op.Prompt ctx := by
  cases op with
  | take | isClosed | dial | put _ | destroy _ => trivial
  | _ => exact absurd h id

theorem tickOver_prompt (hdelay : s.delay = 0) (hhandler : s.handler.Spares ctx) (c : Connection) :
    Action.Only (Op.Prompt ctx) (s.tickOver ctx c) := by
  refine Program.Only.imp (tickOver_steps s ctx c) fun op hop => ?_
  cases op with
  | handle handler tx block =>
    obtain rfl : handler = s.handler := hop
    exact hhandler
  | pause _ span => exact absurd (hop.1.trans hdelay) hop.2
  | lock _ => exact hop
  | _ => exact trivial

/-- A tick takes its lock. What it does then has the steps of its lease, those of its body, and the one that gives the
lock back. -/
theorem tick_locked {kind : Op → Prop} (hlease : ∀ op, op.OfLease → kind op)
    (hbody : ∀ c, Action.Only kind (s.tickOver ctx c)) (hunlock : kind (.unlock s.lock)) :
    ∃ rest, (s.tick ctx).run = .step (.lock s.lock) (fun _ => rest) ∧ rest.Only kind := by
  refine ⟨(Lease.withConnection (s.tickOver ctx)).run >>= fun r => .perform (.unlock s.lock) >>= fun _ => pure r, rfl, ?_⟩
  have hleased : (Lease.withConnection (s.tickOver ctx)).run.Only kind := Action.Only.withConnection hlease hbody
  exact hleased.bind fun r => .bind (.perform hunlock) fun _ => trivial

/-- All that a tick does with its lock taken takes no time. -/
theorem tick_prompt (hdelay : s.delay = 0) (hhandler : s.handler.Spares ctx) :
    ∃ rest, (s.tick ctx).run = .step (.lock s.lock) (fun _ => rest) ∧ rest.Only (Op.Prompt ctx) :=
  tick_locked (fun _ => Op.OfLease.prompt) (tickOver_prompt hdelay hhandler) trivial

theorem tick_undelayed (hdelay : s.delay = 0) (hhandler : s.handler.Spares ctx) (w : World ν σ) :
    Undelayed ctx w ((s.tick ctx).run.run w).2 := by
  obtain ⟨rest, htick, hrest⟩ := tick_prompt hdelay hhandler
  have hlocked : Undelayed ctx w (w.perform (.lock s.lock)).2 := ⟨rfl, rfl, fun _ _ => ⟨rfl, rfl⟩⟩
  rw [htick]
  exact hlocked.trans (hrest.undelayed _)

theorem Op.OfLease.lockless {op : Op} (h : op.OfLease) : op.lock? = none := by
  cases op with
  | lock _ => exact absurd h id
  | _ => rfl

theorem Op.OfBlocks.lockless {op : Op} (h : op.OfBlocks s) : op.lock? = none := by
  cases op with
  | lock _ => exact absurd h id
  | _ => rfl

/-- A tick is told by the one lock that it takes. -/
theorem tick_found (s : Scanner) (ctx : Context) (w : World ν σ) :
    foundAtLock s.lock ((s.tick ctx).run.steps w) = [w] := by
  obtain ⟨rest, htick, hrest⟩ : ∃ rest, (s.tick ctx).run = .step (.lock s.lock) (fun _ => rest) ∧
      rest.Only (·.lock? = none) :=
    tick_locked (fun _ => Op.OfLease.lockless) (fun c => (tickOver_steps s ctx c).imp fun _ => Op.OfBlocks.lockless) rfl
  rw [htick, Program.steps, foundAtLock, List.filter_cons_of_pos (by simp [Op.lock?]), List.map_cons]
  exact congrArg (w :: ·) (hrest.takes_no_lock s.lock _)

theorem tick_unscheduled (hdelay : s.delay = 0) (hhandler : s.handler.Spares ctx) (agenda : List (Nat × Event ν))
    (w : World ν σ) : (s.tick ctx).run.run { w with agenda } =
      (((s.tick ctx).run.run w).1, { ((s.tick ctx).run.run w).2 with agenda }) := by
  obtain ⟨rest, htick, hrest⟩ := tick_prompt hdelay hhandler
  rw [htick]
  exact hrest.unscheduled agenda (w.perform (.lock s.lock)).2

end Tick

/-! ## From tick to tick -/

section Polls
variable {s : Scanner} {period : Nat} {w : World ν σ}

/-- What the ticks of a scan find: the first one what is there at the start, and every other one what the one before it
left, after the events before its instant. -/
def Scanner.tickWorld (s : Scanner) (ctx : Context) (period : Nat) (w : World ν σ) : Nat → World ν σ
  | 0 => w
  | k + 1 => ((s.tick ctx).run.run (s.tickWorld ctx period w k)).2.advance (w.now + (k + 1) * period)

/-- What so many ticks of a scan leave. -/
def Scanner.tickLeft (s : Scanner) (ctx : Context) (period : Nat) (w : World ν σ) : Nat → World ν σ
  | 0 => w
  | k + 1 => ((s.tick ctx).run.run (s.tickWorld ctx period w k)).2

/-- What the times of a scan rely on: there is time between its polls and none passes in its ticks, and its context gets
done at `T`, by a deadline or by a signal that comes at none of its instants. -/
structure Punctual (s : Scanner) (ctx : Context) (T : ℕ∞) (period : Nat) (w : World ν σ) : Prop where
  period_pos : 1 ≤ period
  delay : s.delay = 0
  handler : s.handler.Spares ctx
  ordered : w.Ordered
  doneFrom : w.DoneFrom ctx T
  /-- No signal that is due at the start is still to come. -/
  seen : T ≤ (w.now : ℕ) → w.isDone ctx = true
  untied : ∀ k, 1 ≤ k → T = (w.now + k * period : ℕ) → ctx.deadline? = some (w.now + k * period)

/-- At a time, and with the context still to get done at `T`. -/
structure Polled (ctx : Context) (T : ℕ∞) (now : Nat) (w : World ν σ) : Prop where
  now : w.now = now
  ordered : w.Ordered
  doneFrom : w.DoneFrom ctx T

theorem tick_polled {now : Nat} (h : Punctual s ctx T period w) {v : World ν σ} (hv : Polled ctx T now v) :
    Polled ctx T now ((s.tick ctx).run.run v).2 := by
  have htick := tick_undelayed h.delay h.handler v
  exact ⟨htick.now.trans hv.now, htick.ordered hv.ordered, htick.doneFrom hv.doneFrom⟩

/-- Every tick begins at its instant. -/
theorem tickWorld_polled (h : Punctual s ctx T period w) (k : Nat) :
    Polled ctx T (w.now + k * period) (s.tickWorld ctx period w k) := by
  induction k with
  | zero => exact ⟨by simp [Scanner.tickWorld], h.ordered, h.doneFrom⟩
  | succ k ih =>
    obtain ⟨hnow, hordered, hdone⟩ := tick_polled h ih
    refine ⟨rfl, hordered.advance _, hdone.advance ?_⟩
    rw [hnow, Nat.succ_mul]
    omega

theorem tickLeft_polled (h : Punctual s ctx T period w) (k : Nat) :
    Polled ctx T (w.now + k * period) (s.tickLeft ctx period w (k + 1)) := tick_polled h (tickWorld_polled h k)

/-- The next instant is a period later. -/
theorem instant_succ {start now k : Nat} (hnow : now = start + k * period) : now + period = start + (k + 1) * period := by
  rw [hnow, Nat.succ_mul, Nat.add_assoc]

/-- An instant before the end is waited for. -/
theorem pause_before (h : Punctual s ctx T period w) {k : Nat} (hk : ((w.now + k * period : ℕ) : ℕ∞) < T) :
    let v := s.tickLeft ctx period w k
    v.pause ctx (w.now + k * period - v.now) = (false, s.tickWorld ctx period w k) := by
  cases k with
  | zero =>
    have hundone : w.isDone ctx = false := h.doneFrom.undone (by simpa using hk)
    simp [Scanner.tickLeft, Scanner.tickWorld, World.pause, hundone]
  | succ k =>
    obtain ⟨hnow, -, hdone⟩ := tickLeft_polled h k
    have hnext := instant_succ hnow
    dsimp only
    rw [← hnext] at hk ⊢
    rw [Nat.add_sub_cancel_left, World.pause_passes h.period_pos hdone hk, hnext]
    rfl

/-- In the wait for a later instant the context gets done. -/
theorem pause_behind (h : Punctual s ctx T period w) {k : Nat} (hreached : ∀ j < k, ((w.now + j * period : ℕ) : ℕ∞) < T)
    (hk : T ≤ (w.now + k * period : ℕ)) :
    let v := s.tickLeft ctx period w k
    ∃ v', v.pause ctx (w.now + k * period - v.now) = (true, v') ∧ (v'.now : ℕ∞) = max T w.now ∧ v'.store = v.store := by
  cases k with
  | zero =>
    have hlate : T ≤ w.now := by simpa using hk
    refine ⟨w, ?_, (max_eq_right hlate).symm, rfl⟩
    simp [Scanner.tickLeft, World.pause, h.seen hlate]
  | succ k =>
    obtain ⟨hnow, hordered, hdone⟩ := tickLeft_polled h k
    have hnext := instant_succ hnow
    have hbefore := hreached k (Nat.lt_succ_self k)
    have hstart : (w.now : ℕ∞) ≤ (w.now + k * period : ℕ) := Nat.cast_le.2 (Nat.le_add_right _ _)
    have huntied := h.untied (k + 1) (Nat.le_add_left 1 k)
    dsimp only
    rw [← hnext] at hk huntied ⊢
    obtain ⟨hisDone, htime⟩ := World.pause_ends h.period_pos hordered hdone hk huntied
    rw [Nat.add_sub_cancel_left]
    refine ⟨_, Prod.ext hisDone rfl, ?_, perform_leads (s.tickLeft ctx period w (k + 1)) (.pause ctx period)⟩
    rw [htime, hnow, max_eq_left hbefore.le, max_eq_left (hstart.trans hbefore.le)]

/-- A poll: it waits until it is due, and ticks unless the context is done by then. -/
theorem Scanner.poll_succ (s : Scanner) (ctx : Context) (period polls due : Nat) :
    s.poll ctx period (polls + 1) due =
      .step .time fun now => .step (.pause ctx (due - now)) fun ended =>
        if ended then .done .contextDone
        else .step .time fun now =>
          (s.tick ctx).run >>= fun _ => s.poll ctx period polls (Scanner.nextDue period due now) := rfl

theorem Scanner.run_timed (s : Scanner) (ctx : Context) (hperiod : period ≠ 0) (polls : Nat) :
    s.run ctx period polls = .step .time fun now => s.poll ctx period polls now := by
  rw [Scanner.run, if_neg hperiod]
  rfl

variable {due : Nat} {v v' : World ν σ}

theorem poll_ticks (polls : Nat) (hpause : v.pause ctx (due - v.now) = (false, v')) :
    let left := ((s.tick ctx).run.run v').2
    let rest := s.poll ctx period polls (Scanner.nextDue period due v'.now)
    (s.poll ctx period (polls + 1) due).run v = rest.run left ∧
      foundAtLock s.lock ((s.poll ctx period (polls + 1) due).steps v) =
        foundAtLock s.lock ((s.tick ctx).run.steps v') ++ foundAtLock s.lock (rest.steps left) := by
  intro left rest
  have hpause : v.perform (.pause ctx (due - v.now)) = (false, v') := hpause
  have hnow (v : World ν σ) : v.perform .time = (v.now, v) := rfl
  rw [Scanner.poll_succ]
  constructor
  · rw [Program.run_step (hnow v), Program.run_step hpause, if_neg Bool.false_ne_true, Program.run_step (hnow v'),
      Program.run_bind]
  · rw [Program.steps_step (hnow v), Program.steps_step hpause, if_neg Bool.false_ne_true,
      Program.steps_step (hnow v'), Program.steps_bind, ← foundAtLock_append]
    rfl

theorem poll_ends (s : Scanner) (period polls : Nat) (hpause : v.pause ctx (due - v.now) = (true, v')) :
    (s.poll ctx period (polls + 1) due).run v = (.contextDone, v') ∧
      foundAtLock s.lock ((s.poll ctx period (polls + 1) due).steps v) = [] := by
  have hpause : v.perform (.pause ctx (due - v.now)) = (true, v') := hpause
  have hnow : v.perform .time = (v.now, v) := rfl
  rw [Scanner.poll_succ]
  constructor
  · rw [Program.run_step hnow, Program.run_step hpause, if_pos rfl]
    rfl
  · rw [Program.steps_step hnow, Program.steps_step hpause, if_pos rfl]
    rfl

/-- How a scan goes on from its `first` instant for so many polls: the ticks are those whose instants are before `T`, and
it ends at `T` or when its polls are used up. -/
structure Went (s : Scanner) (ctx : Context) (T : ℕ∞) (period : Nat) (w : World ν σ) (first polls n : Nat)
    (found : List (World ν σ)) (r : ScanEnd × World ν σ) : Prop where
  fits : n ≤ polls
  before : ∀ j < polls, j < n ↔ ((w.now + (first + j) * period : ℕ) : ℕ∞) < T
  found : found = (List.range' first n).map (s.tickWorld ctx period w)
  store : r.2.store = (s.tickLeft ctx period w (first + n)).store
  whole : n = polls → r.1 = .pollsSpent
  cut : n < polls → r.1 = .contextDone ∧ (r.2.now : ℕ∞) = max T w.now

namespace Went
variable {first polls n : Nat} {found : List (World ν σ)} {r : ScanEnd × World ν σ}

/-- All polls are used up. -/
theorem spent (s : Scanner) (ctx : Context) (T : ℕ∞) (period first : Nat) (w : World ν σ) :
    Went s ctx T period w first 0 0 [] (.pollsSpent, s.tickLeft ctx period w first) where
  fits := Nat.le_refl 0
  before j hj := absurd hj (Nat.not_lt_zero j)
  found := rfl
  store := rfl
  whole _ := rfl
  cut hlt := absurd hlt (Nat.lt_irrefl 0)

/-- The context gets done before the next instant, and so before all that follow. -/
theorem ended {w' : World ν σ} (hlate : T ≤ (w.now + first * period : ℕ)) (hnow : (w'.now : ℕ∞) = max T w.now)
    (hstore : w'.store = (s.tickLeft ctx period w first).store) :
    Went s ctx T period w first (polls + 1) 0 [] (.contextDone, w') where
  fits := Nat.zero_le _
  before j _ :=
    iff_of_false (Nat.not_lt_zero j) (not_lt.2 (hlate.trans (instant_le (Nat.le_add_right first j))))
  found := rfl
  store := hstore
  whole h0 := absurd h0.symm (Nat.succ_ne_zero polls)
  cut _ := ⟨rfl, hnow⟩

/-- The next instant is reached, so there is a tick at it. -/
theorem ticked (h : Went s ctx T period w (first + 1) polls n found r)
    (hearly : ((w.now + first * period : ℕ) : ℕ∞) < T) :
    Went s ctx T period w first (polls + 1) (n + 1) (s.tickWorld ctx period w first :: found) r where
  fits := Nat.succ_le_succ h.fits
  before := by
    intro j hj
    cases j with
    | zero => exact iff_of_true (Nat.succ_pos n) hearly
    | succ j =>
      have hshift : first + 1 + j = first + (j + 1) := by omega
      rw [Nat.succ_lt_succ_iff, h.before j (Nat.lt_of_succ_lt_succ hj), hshift]
  found := by rw [List.range'_succ, List.map_cons, h.found]
  store := by
    have hshift : first + 1 + n = first + (n + 1) := by omega
    rw [← hshift]
    exact h.store
  whole heq := h.whole (Nat.succ.inj heq)
  cut hlt := h.cut (Nat.lt_of_succ_lt_succ hlt)

end Went

/-- From an instant on, a scan ticks at its instants up to `T`. -/
theorem poll_goes (h : Punctual s ctx T period w) (polls : Nat) :
    ∀ first, (∀ k < first, ((w.now + k * period : ℕ) : ℕ∞) < T) →
      let v := s.tickLeft ctx period w first
      let p := s.poll ctx period polls (w.now + first * period)
      ∃ n, Went s ctx T period w first polls n (foundAtLock s.lock (p.steps v)) (p.run v) := by
  induction polls with
  | zero => exact fun first _ => ⟨0, .spent s ctx T period first w⟩
  | succ polls ih =>
    intro first hreached v p
    rcases lt_or_ge ((w.now + first * period : ℕ) : ℕ∞) T with hearly | hlate
    · -- The tick is over at once, so the next one is due a period after it began.
      have hdue : Scanner.nextDue period (w.now + first * period) (s.tickWorld ctx period w first).now =
          w.now + (first + 1) * period := by
        rw [(tickWorld_polled h first).now, Scanner.nextDue, if_neg (by omega), Nat.succ_mul, Nat.add_assoc]
      have hnext : ∀ k < first + 1, ((w.now + k * period : ℕ) : ℕ∞) < T :=
        fun k hk => (instant_le (Nat.le_of_lt_succ hk)).trans_lt hearly
      obtain ⟨n, hwent⟩ := ih (first + 1) hnext
      obtain ⟨hrun, hfound⟩ := poll_ticks polls (pause_before h hearly)
      rw [hdue] at hrun hfound
      rw [tick_found s ctx] at hfound
      rw [hrun, hfound]
      exact ⟨n + 1, hwent.ticked hearly⟩
    · obtain ⟨v', hpause, hnow, hstore⟩ := pause_behind h hreached hlate
      obtain ⟨hrun, hfound⟩ := poll_ends s period polls hpause
      rw [hrun, hfound]
      exact ⟨0, .ended hlate hnow hstore⟩

/-- The first instant of a scan is the one at which it starts. -/
theorem scan_goes (h : Punctual s ctx T period w) (polls : Nat) :
    let scan := s.run ctx period polls
    ∃ n, Went s ctx T period w 0 polls n (foundAtLock s.lock (scan.steps w)) (scan.run w) := by
  intro scan
  have hnow : w.perform .time = (w.now, w) := rfl
  obtain ⟨n, hwent⟩ := poll_goes h polls 0 fun k hk => absurd hk (Nat.not_lt_zero k)
  rw [Nat.zero_mul, Nat.add_zero] at hwent
  have hscan : scan = _ := Scanner.run_timed s ctx (Nat.ne_of_gt h.period_pos) polls
  rw [hscan, Program.run_step hnow, Program.steps_step hnow]
  exact ⟨n, hwent⟩

end Polls
end Prompt

/-! ## The height that is left -/

section Heights
variable {s : Scanner} {ctx : Context}

/-- A tick whose context is not done and whose blocks are all there goes up to the highest block but one. -/
theorem tick_height (hdelay : s.delay = 0) (hhandler : s.handler.Spares ctx) {w : World SimulatedNode MemoryStore}
    (hundone : w.isDone ctx = false)
    (hconn : w.pool.idle ≠ [] ∨ w.pool.closed = false ∧ w.node.refusesDials = false)
    (hserves : w.node.Serves (max w.store.height s.start) w.node.head.toNat) (hhead : s.start < w.node.head.toNat - 1) :
    ((s.tick ctx).run.run w).2.store.height = max w.store.height (w.node.head.toNat - 1) := by
  -- What is to come cannot happen in the tick, so it is left out.
  let w' : World SimulatedNode MemoryStore := { w with agenda := [] }
  obtain ⟨T, hT⟩ := World.exists_doneFrom ctx w'
  have hdoneAt : w'.doneAt ctx w'.now = w.isDone ctx := World.doneAt_of_later fun p hp => absurd hp List.not_mem_nil
  have hearly : (w.now : ℕ∞) < T := by
    refine lt_of_not_ge fun hle => ?_
    rw [← (hT w'.now (Nat.le_refl _)), hdoneAt, hundone] at hle
    cases hle
  have htimely : Timely ctx T (max w.store.height s.start) w.node.head.toNat w' :=
    ⟨List.Pairwise.nil, hT, fun hle => absurd hearly (not_lt.2 hle), hserves, fun p hp => absurd hp List.not_mem_nil⟩
  have huntied : Untied ctx T w'.now s.delay (w.node.head.toNat - 1 - max w.store.height s.start) := by
    intro i _ hpos
    rw [hdelay, Nat.mul_zero] at hpos
    exact absurd hpos (Nat.lt_irrefl 0)
  obtain ⟨blocks, failed, -, hwalked, hcut⟩ :=
    (tick_chronicled (w := w') hhandler hconn rfl rfl htimely huntied).chronicled
  have hall : blocks.length = w.node.head.toNat - 1 - max w.store.height s.start := by
    refine Nat.le_antisymm hcut.fits (Nat.le_of_not_lt fun hlt => Nat.lt_irrefl blocks.length ?_)
    refine (hcut.before _ hlt).2 ?_
    rw [hdelay, Nat.mul_zero]
    exact hearly
  have hrun : ((s.tick ctx).run.chronicle ⟨w', [], []⟩).2.world = { ((s.tick ctx).run.run w).2 with agenda := [] } := by
    have hrun := Program.chronicle_run (s.tick ctx).run ⟨w', [], []⟩
    rw [tick_unscheduled hdelay hhandler [] w] at hrun
    exact congrArg Prod.snd hrun
  have hheight : ((s.tick ctx).run.run w).2.store.height =
      if blocks = [] then w.store.height else max w.store.height s.start + 1 + blocks.length - 1 := by
    rw [← hwalked.height, hrun]
  rw [hheight]
  by_cases hnone : blocks = []
  · rw [hnone, List.length_nil] at hall
    rw [if_pos hnone]
    omega
  · have hpos := List.length_pos_iff.2 hnone
    rw [if_neg hnone]
    omega

/-- A scan runs until its context is done, and no longer. Its ticks are at its instants before `T`, one period after the
other from the start on, and each finds what the one before it left, whatever that was: none is left out, late or made
twice, and none comes behind `T`. The scan then returns at `T`, or at once where `T` had come at the start; it returns
after no fewer polls than that, since more are never used up. If the last tick can have a connection and all blocks that
it needs, the height in the end is that of the highest block but one, or the greater one that was there before. -/
theorem scan_ticks_until_done {T : ℕ∞} {period : Nat} {w : World SimulatedNode MemoryStore}
    (h : Punctual s ctx T period w) (polls : Nat) :
    let instant := fun k : ℕ => w.now + k * period
    let scan := s.run ctx period polls
    let ticks := foundAtLock s.lock (scan.steps w)
    let outcome := (scan.run w).1
    let after := (scan.run w).2
    ∃ n ≤ polls,
      (∀ k < polls, k < n ↔ (instant k : ℕ∞) < T) ∧
      ticks = (List.range n).map (s.tickWorld ctx period w) ∧ ticks.map World.now = (List.range n).map instant ∧
      (n < polls → outcome = .contextDone ∧ (after.now : ℕ∞) = max T w.now) ∧
      (n = polls → outcome = .pollsSpent) ∧
      (∀ t : ℕ, T = t → t < polls → n < polls) ∧
      ∀ last ∈ ticks.getLast?, ∀ highest, last.node.head.toNat = highest →
        (last.pool.idle ≠ [] ∨ last.pool.closed = false ∧ last.node.refusesDials = false) →
        last.node.Serves (max last.store.height s.start) highest → s.start < highest - 1 →
        after.store.height = max last.store.height (highest - 1) := by
  intro instant scan ticks outcome after
  obtain ⟨n, hwent⟩ := scan_goes h polls
  have hbefore : ∀ k < polls, k < n ↔ (instant k : ℕ∞) < T := by
    intro k hk
    rw [hwent.before k hk, Nat.zero_add]
  have hfound : ticks = (List.range n).map (s.tickWorld ctx period w) := by
    rw [List.range_eq_range']
    exact hwent.found
  refine ⟨n, hwent.fits, hbefore, hfound, ?_, hwent.cut, hwent.whole, ?_, ?_⟩
  · rw [hfound, List.map_map]
    exact List.map_congr_left fun k _ => (tickWorld_polled h k).now
  · rintro t rfl ht
    -- The instant of the poll with the number `t` is not before the time `t`.
    have hlate : t ≤ instant t := (Nat.le_mul_of_pos_right t h.period_pos).trans (Nat.le_add_left _ _)
    have hnot : ¬t < n := (hbefore t ht).not.2 (not_lt.2 (Nat.cast_le.2 hlate))
    omega
  · intro last hlast highest hhighest hconn hserves hnew
    obtain _ | n := n
    · rw [hfound] at hlast
      cases hlast
    · obtain rfl : s.tickWorld ctx period w n = last := by
        rw [hfound, List.range_succ, List.map_append, List.map_singleton, List.getLast?_concat] at hlast
        exact Option.some.inj hlast
      have hpolled := tickWorld_polled h n
      have hearly := (hbefore n hwent.fits).1 (Nat.lt_succ_self n)
      rw [← hhighest] at hserves hnew ⊢
      have hheight := tick_height h.delay h.handler (hpolled.doneFrom.undone (hpolled.now ▸ hearly)) hconn hserves hnew
      have hstore : after.store = (s.tickLeft ctx period w (0 + (n + 1))).store := hwent.store
      rw [Nat.zero_add] at hstore
      exact (congrArg MemoryStore.height hstore).trans hheight

end Heights

/-! ## A scan whose first tick fails -/

def pollingScanner : Scanner := ⟨0, 1, 0, fun _ _ _ => .success⟩

/-- Blocks up to the fourth are there, and until time 500 the node takes no connection. -/
def belatedWorld : World SimulatedNode MemoryStore :=
  let node : SimulatedNode := ([2, 3, 4].map (SimulatedNode.blockOf · [])).foldl (fun n b => n.addBlock b) .initial
  { World.initial (node.setRefusesDials true) 1 .empty with agenda := [(500, .node (·.setRefusesDials false))] }

theorem belatedWorld_punctual : Punctual pollingScanner ⟨some 2500, none⟩ (2500 : ℕ) 1000 belatedWorld where
  period_pos := by decide
  delay := rfl
  handler h hh := by cases hh
  ordered := List.pairwise_singleton _ _
  doneFrom := by
    intro t _
    rw [World.doneAt_eq_true_iff, Nat.cast_le]
    constructor
    · rintro (⟨d, hd, hle⟩ | ⟨g, hg, -⟩)
      · cases hd
        exact hle
      · cases hg
    · exact fun hle => .inl ⟨2500, rfl, hle⟩
  seen h := absurd h (by rw [Nat.cast_le]; decide)
  untied k _ hk := by
    have hk : 2500 = 0 + k * 1000 := Nat.cast_inj.1 hk
    omega

/-- It ticks three times, and the second tick makes up for the first. -/
theorem scan_ticks_until_done_belated :
    ((pollingScanner.tick ⟨some 2500, none⟩).run.run belatedWorld).1 =
        .error (.dialFailed "mock: connection refused") ∧
      ((pollingScanner.run ⟨some 2500, none⟩ 1000 5).run belatedWorld).1 = .contextDone ∧
      ((pollingScanner.run ⟨some 2500, none⟩ 1000 5).run belatedWorld).2.now = 2500 ∧
      ((pollingScanner.run ⟨some 2500, none⟩ 1000 5).run belatedWorld).2.store.height = 3 ∧
      (foundAtLock 0 ((pollingScanner.run ⟨some 2500, none⟩ 1000 5).steps belatedWorld)).map World.now =
        [0, 1000, 2000] := by
  obtain ⟨n, -, hbefore, hfound, htimes, hcut, -, -, hheight⟩ := scan_ticks_until_done belatedWorld_punctual 5
  have h2 := (hbefore 2 (by decide)).2 (Nat.cast_lt.2 (by decide))
  have h3 := (hbefore 3 (by decide)).not.2 (by rw [Nat.cast_lt]; decide)
  obtain rfl : n = 3 := by omega
  obtain ⟨hdone, hnow⟩ := hcut (by decide)
  refine ⟨rfl, hdone, ?_, ?_, htimes⟩
  · rw [← Nat.mono_cast.map_max, Nat.cast_inj] at hnow
    exact hnow
  · have hkept : (pollingScanner.tickWorld ⟨some 2500, none⟩ 1000 belatedWorld 2).store.height = 3 := rfl
    have hserves : (pollingScanner.tickWorld ⟨some 2500, none⟩ 1000 belatedWorld 2).node.Serves (max 3 1) 4 :=
      fun h hlow hhigh => absurd hhigh (Nat.not_lt.2 hlow)
    rw [← hkept] at hserves
    exact hheight _ (by rw [hfound]; rfl) 4 rfl (.inl (by decide +kernel)) hserves (by decide)

end EvmClient
