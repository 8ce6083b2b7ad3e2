import EvmClient.Client
import EvmClient.Proofs.ConfigChecks
import EvmClient.Proofs.PollTimes
import Mathlib

/-
What an accepted configuration leaves to its scans.

   A scan is given the times of its configuration. The checks of a configuration do not look at them, so what can go
   wrong in a scan is told from its steps alone: the heights that it counts with, which are words of 64 bits where they
   come from, and how its loop ends. The one thing that it needs of the times is that its period is not zero; a timer
   with no period cannot be made.

   1. `tickOver_fits`, `startScan_fits` — the heights that are asked for and written.
   2. `poll_outcome`, `run_outcome` — the end of a scan that has a period, whatever its ticks end in.
   3. `startScan_refused`, `startScan_opened` — a scan whose store cannot be opened, and one whose store is open.
   4. `scan_runs_given_period` — what of a scan rests on the checks, and what on the period. -/
namespace EvmClient

/-! ## What the steps ask for -/

/-- A height is one that 64 bits hold together with the next one, so counting on from it stays in them. -/
def Op.Fits : Op → Prop
  | .ask _ (.blockByHeight height) | .writeHeight height => height + 1 < UInt64.size
  | _ => True

section Fits
variable {s : Scanner} {ctx : Context}

theorem Op.OfLease.fits {op : Op} (h : op.OfLease) : op.Fits := by
  cases op with
  | take | isClosed | dial | put _ | destroy _ => trivial
  | _ => exact absurd h id

theorem Op.OfHandling.fits {op : Op} (h : op.OfHandling s) : op.Fits := by
  cases op with
  | clock | append _ | handle _ _ _ => trivial
  | _ => exact absurd h id

theorem fetch_fits (c : Connection) {height : ℕ} (h : height + 1 < UInt64.size) :
    Action.Only Op.Fits (Scanner.fetch c height) := by
  refine .bind (.ask h) fun found => ?_
  cases found with
  | none => exact .throw _
  | some block => exact .pure _

/-- The next block is counted. -/
theorem scanNext_fits (s : Scanner) (c : Connection) {p : Progress} (h : p.last + 2 < UInt64.size) :
    (s.scanNext c p).run.Obeys (kindLaw Op.Fits) (fun r _ => ∀ q, r = .ok q → q.last = p.last + 1) () := by
  refine .action ((fetch_fits c h).mono fun r _ _ => ?_)
  cases r with
  | error e =>
    intro q hq
    cases hq
  | ok block =>
    have hhandle := (handleAll_steps s block block.transactions).imp fun _ => Op.OfHandling.fits
    refine .program (hhandle.mono fun failed _ _ => .action (.perform h fun r _ _ => ?_))
    cases r with
    | error e =>
      intro q hq
      cases hq
    | ok _ =>
      intro q hq
      cases hq
      rfl

theorem scanBlocks_fits (s : Scanner) (ctx : Context) (c : Connection) (left : ℕ) :
    ∀ p : Progress, p.last + left + 1 < UInt64.size → Action.Only Op.Fits (s.scanBlocks ctx c left p) := by
  induction left with
  | zero => exact fun p _ => .pure p
  | succ left ih =>
    intro p h
    refine .bind (.program (.perform trivial)) fun ended => .ite (.pure p) ?_
    refine Program.Obeys.action ((scanNext_fits s c (by omega)).mono fun r _ hr => ?_)
    cases r with
    | error e => exact trivial
    | ok q =>
      have hlast := hr q rfl
      have hrest := ih q (by omega)
      dsimp only
      split
      · exact Action.Only.bind (.program (.perform trivial)) fun ended => .ite (.pure q) hrest
      · exact hrest

/-- All heights of a tick lie below that of the highest block, which has 64 bits. -/
theorem tickOver_fits (s : Scanner) (ctx : Context) (c : Connection) : Action.Only Op.Fits (s.tickOver ctx c) := by
  refine .bind (.ask trivial) fun highest => .bind (a := Action.readHeight) (.perform trivial) fun height => ?_
  dsimp only
  split
  · exact .pure _
  · have hhighest := highest.isLt
    have hfits : max height s.start + (highest.toNat - 1 - max height s.start) + 1 < UInt64.size := by
      simp only [UInt64.size]
      omega
    exact .bind (scanBlocks_fits s ctx c _ _ hfits) fun p => .ite (.pure _) (.pure _)

theorem tick_fits (s : Scanner) (ctx : Context) : (s.tick ctx).run.Only Op.Fits := by
  obtain ⟨rest, htick, hrest⟩ := tick_locked (fun _ => Op.OfLease.fits) (tickOver_fits s ctx) trivial
  rw [htick]
  exact ⟨trivial, fun _ _ _ => hrest⟩

theorem poll_fits (s : Scanner) (ctx : Context) (period polls : ℕ) :
    ∀ due, (s.poll ctx period polls due).Only Op.Fits := by
  induction polls with
  | zero => exact fun _ => trivial
  | succ polls ih =>
    intro due
    refine .bind (.perform trivial) fun now => .bind (.perform trivial) fun ended => ?_
    cases ended with
    | true => exact trivial
    | false => exact .bind (.perform trivial) fun now => .bind (tick_fits s ctx) fun _ => ih _

theorem run_fits (s : Scanner) (ctx : Context) (period polls : ℕ) : (s.run ctx period polls).Only Op.Fits := by
  unfold Scanner.run
  split
  · exact trivial
  · exact .bind (.perform trivial) fun now => poll_fits s ctx period polls now

end Fits

/-! ## How a scan comes to its end -/

section Ends
variable {ν σ : Type} [Node ν] [CheckpointStore σ]

omit [Node ν] [CheckpointStore σ] in
/-- A pause that says so leaves the context done. -/
theorem World.isDone_pause (ctx : Context) (span : ℕ) (w : World ν σ) :
    (w.pause ctx span).2.isDone ctx = (w.pause ctx span).1 := by
  unfold World.pause
  split
  · assumption
  · rename_i h
    split
    · exact Bool.eq_false_iff.2 h
    · rfl

/-- However its ticks end, a scan goes on to its last poll or until its context is done. -/
theorem poll_outcome (s : Scanner) (ctx : Context) (period polls : ℕ) :
    ∀ (due : ℕ) (v : World ν σ),
      let p := s.poll ctx period polls due
      let ticks := foundAtLock s.lock (p.steps v)
      (p.run v).1 = .pollsSpent ∧ ticks.length = polls ∨
        (p.run v).1 = .contextDone ∧ ticks.length < polls ∧ (p.run v).2.isDone ctx = true := by
  induction polls with
  | zero => exact fun _ _ => .inl ⟨rfl, rfl⟩
  | succ polls ih =>
    intro due v p ticks
    obtain ⟨ended, v', hpause⟩ : ∃ ended v', v.pause ctx (due - v.now) = (ended, v') := ⟨_, _, rfl⟩
    have hdone := v.isDone_pause ctx (due - v.now)
    rw [hpause] at hdone
    cases ended with
    | true =>
      obtain ⟨hrun, hticks⟩ := poll_ends s period polls hpause
      have hnone : ticks.length = 0 := congrArg List.length hticks
      refine .inr ?_
      rw [hrun, hnone]
      exact ⟨rfl, Nat.succ_pos polls, hdone⟩
    | false =>
      let left := ((s.tick ctx).run.run v').2
      let rest := s.poll ctx period polls (Scanner.nextDue period due v'.now)
      obtain ⟨hrun, hticks⟩ : p.run v = rest.run left ∧
          ticks = foundAtLock s.lock ((s.tick ctx).run.steps v') ++ foundAtLock s.lock (rest.steps left) :=
        poll_ticks polls hpause
      rw [tick_found s ctx v'] at hticks
      have hlength : ticks.length = (foundAtLock s.lock (rest.steps left)).length + 1 := congrArg List.length hticks
      rw [hrun, hlength]
      rcases ih (Scanner.nextDue period due v'.now) left with ⟨hspent, hall⟩ | ⟨hcut, hfewer, hdone⟩
      · exact .inl ⟨hspent, congrArg Nat.succ hall⟩
      · exact .inr ⟨hcut, Nat.succ_lt_succ hfewer, hdone⟩

theorem run_outcome (s : Scanner) (ctx : Context) {period : ℕ} (hperiod : period ≠ 0) (polls : ℕ) (v : World ν σ) :
    let scan := s.run ctx period polls
    let ticks := foundAtLock s.lock (scan.steps v)
    (scan.run v).1 = .pollsSpent ∧ ticks.length = polls ∨
      (scan.run v).1 = .contextDone ∧ ticks.length < polls ∧ (scan.run v).2.isDone ctx = true := by
  intro scan ticks
  have hnow : v.perform .time = (v.now, v) := rfl
  have hscan : scan = _ := Scanner.run_timed s ctx hperiod polls
  have hrun : scan.run v = (s.poll ctx period polls v.now).run v := by rw [hscan, Program.run_step hnow]
  have hticks : ticks = foundAtLock s.lock ((s.poll ctx period polls v.now).steps v) := by
    show foundAtLock s.lock (scan.steps v) = _
    rw [hscan, Program.steps_step hnow]
    rfl
  rw [hrun, hticks]
  exact poll_outcome s ctx period polls v.now v

end Ends

/-! ## A scan with the configured times -/

section Starts
variable {ν σ : Type} [Node ν] [CheckpointStore σ] {start : ℕ}

/-- A scan opens its store, and runs once that is open. -/
theorem startScan_eq (hstart : 1 ≤ start) (c : Config) (lock : ℕ) (ctx : Context) (period : ℕ) (handler : Handler)
    (polls : ℕ) :
    (Client.startScan c lock ctx start period handler polls).run = .step (.openStore c.checkpointDir) fun opened =>
      match opened with
      | .error e => pure (.error e)
      | .ok () => Scanner.run ⟨lock, start, c.scan.blockDelay, handler⟩ ctx period polls >>= fun e => pure (.ok e) := by
  have hscanner : Client.scanner c lock start handler = .ok ⟨lock, start, c.scan.blockDelay, handler⟩ :=
    if_neg (Nat.not_lt.2 hstart)
  unfold Client.startScan
  rw [if_neg (Nat.not_lt.2 hstart), hscanner]
  show Program.step _ _ = _
  congr 1
  funext opened
  cases opened <;> rfl

theorem startScan_fits (hstart : 1 ≤ start) (c : Config) (lock : ℕ) (ctx : Context) (period : ℕ) (handler : Handler)
    (polls : ℕ) : Action.Only Op.Fits (Client.startScan c lock ctx start period handler polls) := by
  unfold Action.Only
  rw [startScan_eq hstart]
  refine ⟨trivial, fun opened _ _ => ?_⟩
  cases opened with
  | error e => exact trivial
  | ok _ => exact (run_fits _ ctx period polls).bind fun _ => trivial

variable {c : Config} {w left : World ν σ}

theorem startScan_refused {e : ClientError} (hstart : 1 ≤ start)
    (hopen : w.perform (.openStore c.checkpointDir) = (.error e, left)) (lock : ℕ) (ctx : Context) (period : ℕ)
    (handler : Handler) (polls : ℕ) :
    let scan := (Client.startScan c lock ctx start period handler polls).run
    scan.run w = (.error e, left) ∧ foundAtLock lock (scan.steps w) = [] := by
  intro scan
  have hscan : scan = _ := startScan_eq hstart c lock ctx period handler polls
  rw [hscan, Program.run_step hopen, Program.steps_step hopen]
  exact ⟨rfl, rfl⟩

theorem startScan_opened (hstart : 1 ≤ start) (hopen : w.perform (.openStore c.checkpointDir) = (.ok (), left))
    (lock : ℕ) (ctx : Context) (period : ℕ) (handler : Handler) (polls : ℕ) :
    let scan := (Client.startScan c lock ctx start period handler polls).run
    let loop := Scanner.run ⟨lock, start, c.scan.blockDelay, handler⟩ ctx period polls
    scan.run w = (.ok (loop.run left).1, (loop.run left).2) ∧
      foundAtLock lock (scan.steps w) = foundAtLock lock (loop.steps left) := by
  intro scan loop
  have hscan : scan = _ := startScan_eq hstart c lock ctx period handler polls
  rw [hscan, Program.run_step hopen, Program.steps_step hopen]
  refine ⟨Program.run_bind loop _ left, ?_⟩
  show foundAtLock lock ((loop >>= fun e => pure (.ok e) : Program (Except ClientError ScanEnd)).steps left) = _
  rw [Program.steps_bind]
  exact congrArg (foundAtLock lock) (List.append_nil _)

/-- What was accepted may leave a scan without time between its polls, since the checks do not look at the scan at all;
the environment alone never does. Apart from that no such scan is cut short. All heights that it asks for and writes
have 64 bits, and so do those after them. It ends in an error before its first tick if the store cannot be opened; with
the store open it goes on from tick to tick, whatever they end in, to the last poll or until its context is done. With
no time between the polls it has no tick and no such end. -/
theorem scan_runs_given_period {c : Config} (hvalid : c.validate = .ok ()) (hstart : 1 ≤ start) (lock : ℕ)
    (ctx : Context) (handler : Handler) (polls : ℕ) (w : World ν σ) :
    let scan := (Client.startScan c lock ctx start c.scan.pollInterval handler polls).run
    let opened := (CheckpointStore.openAt c.checkpointDir w.store).1
    let outcome := (scan.run w).1
    let after := (scan.run w).2
    let ticks := foundAtLock lock (scan.steps w)
    (∀ settings : ScanConfig, ({ c with scan := settings } : Config).validate = .ok ()) ∧
      (∀ env, Config.ofEnvironment env = .ok c → c.scan.pollInterval ≠ 0) ∧
      (∀ step ∈ scan.steps w, step.op.Fits) ∧
      (∀ e, opened = .error e → outcome = .error e ∧ ticks = []) ∧
      (opened = .ok () → c.scan.pollInterval = 0 → outcome = .ok .noPeriod ∧ ticks = []) ∧
      (opened = .ok () → c.scan.pollInterval ≠ 0 →
        outcome = .ok .pollsSpent ∧ ticks.length = polls ∨
          outcome = .ok .contextDone ∧ ticks.length < polls ∧ after.isDone ctx = true) := by
  intro scan opened outcome after ticks
  let left : World ν σ := { w with store := (CheckpointStore.openAt c.checkpointDir w.store).2 }
  have hopen : w.perform (.openStore c.checkpointDir) = (opened, left) := rfl
  refine ⟨fun settings => (Config.validate_scan c settings).trans hvalid, ?_,
    (startScan_fits hstart c lock ctx _ handler polls).all_steps w, ?_, ?_, ?_⟩
  · intro env henv hzero
    rw [(Config.ofEnvironment_validated henv).2] at hzero
    cases hzero
  · intro e he
    rw [he] at hopen
    obtain ⟨hrun, hticks⟩ := startScan_refused hstart hopen lock ctx c.scan.pollInterval handler polls
    exact ⟨congrArg Prod.fst hrun, hticks⟩
  · intro hok hzero
    rw [hok] at hopen
    obtain ⟨hrun, hticks⟩ := startScan_opened hstart hopen lock ctx c.scan.pollInterval handler polls
    rw [Scanner.run, if_pos hzero] at hrun hticks
    exact ⟨congrArg Prod.fst hrun, hticks⟩
  · intro hok hperiod
    rw [hok] at hopen
    obtain ⟨hrun, hticks⟩ := startScan_opened hstart hopen lock ctx c.scan.pollInterval handler polls
    rw [show outcome = _ from congrArg Prod.fst hrun, show after = _ from congrArg Prod.snd hrun,
      show ticks = _ from hticks]
    rcases run_outcome ⟨lock, start, c.scan.blockDelay, handler⟩ ctx hperiod polls left with
      ⟨hspent, hall⟩ | ⟨hcut, hfewer, hdone⟩
    · exact .inl ⟨congrArg Except.ok hspent, hall⟩
    · exact .inr ⟨congrArg Except.ok hcut, hfewer, hdone⟩

end Starts

/-- A node on the same host. -/
def localConfig : Config := { Config.standard with endpoint := "http://[::1]:8545" }

def localWorld : World SimulatedNode MemoryStore := .initial .initial 0 .empty

theorem localConfig_validated : localConfig.validate = .ok () := by cbv

/-- A tick at the start and none at the next instant, before which the time is over. -/
theorem scan_runs_given_period_local :
    let ctx : Context := ⟨some 500, none⟩
    let scan := (Client.startScan localConfig 0 ctx 1 localConfig.scan.pollInterval (fun _ _ _ => .success) 2).run
    localConfig.validate = .ok () ∧ (scan.run localWorld).1 = .ok .contextDone ∧
      (foundAtLock 0 (scan.steps localWorld)).length < 2 ∧ (scan.run localWorld).2.isDone ctx = true := by
  intro ctx scan
  obtain ⟨-, -, -, -, -, htimed⟩ :=
    scan_runs_given_period localConfig_validated (Nat.le_refl 1) 0 ctx (fun _ _ _ => .success) 2 localWorld
  have hcut : (scan.run localWorld).1 = .ok .contextDone := rfl
  refine ⟨localConfig_validated, hcut, ?_⟩
  rcases htimed rfl (by decide) with ⟨hspent, -⟩ | ⟨-, hfewer, hdone⟩
  · exact absurd (hspent.symm.trans hcut) (by simp)
  · exact ⟨hfewer, hdone⟩

/-- The same, but with no time between the polls of its scans. -/
def periodlessConfig : Config := { localConfig with scan := { ScanConfig.standard with pollInterval := 0 } }

/-- A file with this configuration is read and accepted, and a scan with its times does not begin. -/
theorem accepted_scan_without_period :
    let text := "\x7b\x22endpoint\x22: \x22http://[::1]:8545\x22, \x22scan\x22: \x7b\x22poll_interval_ms\x22: 0\x7d\x7d"
    let scan := (Client.startScan periodlessConfig 0 .background 1 periodlessConfig.scan.pollInterval
      (fun _ _ _ => .success) 3).run
    Config.ofFile "fibo.json" (.ok (Hex.utf8 text.toList)) = .ok periodlessConfig ∧
      periodlessConfig.validate = .ok () ∧ (scan.run localWorld).1 = .ok .noPeriod := by
  intro text scan
  have hvalid : periodlessConfig.validate = .ok () := (Config.validate_scan localConfig _).trans localConfig_validated
  have hread : (Json.ofText? text).bind Config.ofJson? = some periodlessConfig := by decide +kernel
  refine ⟨?_, hvalid, rfl⟩
  have htext : String.fromUTF8? ⟨(Hex.utf8 text.toList).toArray⟩ = some text := by
    rw [fromUTF8?_utf8, String.ofList_toList]
  simp only [Config.ofFile, Except.bind, htext, hread, hvalid]

end EvmClient
