import EvmClient.Proofs.Course
import EvmClient.Proofs.Durability
import EvmClient.Scan

/-
The passes of a scan.

   A pass goes over one block: from the block's being served to the end of the write of its height. `passes`
   reads the passes off the effects of a scan. `Trail` says how they follow one another: each goes over the
   block behind the height that the next tick resumes from, and only one whose write succeeded, or failed
   late, moves that height.

   1. `scanNext_obeys` — a block is handled as a whole before its height is written.
   2. `tick_obeys` — a tick prolongs the trail, wherever it ends.
   3. `scanCourse_resting` — so does any number of ticks, cut or not. -/
namespace EvmClient

/-! ## Passes -/

/-- How a pass ended. -/
inductive Ending where
  | running
  | cut
  /-- The height's write failed. -/
  | failed
  | written
deriving DecidableEq

/-- How a pass ends with the write of its height. -/
def Ending.ofWrite : Bool → Ending
  | true => .written
  | false => .failed

/-- Transactions of a block as a handler gets them. -/
def callsOf (block : Block) (txs : List Transaction) : List (Transaction × Block) := txs.map fun tx => (tx, block)

structure Pass where
  height : Nat
  /-- The block as it was served. -/
  block : Block
  calls : List (Transaction × Block)
  ending : Ending

namespace Pass

/-- What a pass over a block hands to the handler. -/
def due (p : Pass) : List (Transaction × Block) := callsOf p.block p.block.transactions

/-- The pass did not come to its end, or its height's write failed. -/
def Interrupted (p : Pass) : Prop := p.ending = .cut ∨ p.ending = .failed

instance (p : Pass) : Decidable p.Interrupted := inferInstanceAs (Decidable (_ ∨ _))

end Pass

/-- Adds an effect to the passes, of which the first is the latest. -/
def note : List Pass → Effect → List Pass
  | log, .served height block => ⟨height, block, [], .running⟩ :: log
  | p :: log, .handled tx block => { p with calls := p.calls ++ [(tx, block)] } :: log
  | p :: log, .wrote height success =>
    (if p.height = height ∧ p.ending = .running then { p with ending := .ofWrite success } else p) :: log
  | p :: log, .cut => (if p.ending = .running then { p with ending := .cut } else p) :: log
  | log, _ => log

/-- The passes of a scan, the latest first. -/
def passes (effects : List Effect) : List Pass := effects.foldl note []

theorem passes_snoc (t : List Effect) (e : Effect) : passes (t ++ [e]) = note (passes t) e :=
  List.foldl_append

/-- Each pass goes over a block as it was served. -/
theorem servedBlocks_eq (effects : List Effect) :
    servedBlocks effects = (passes effects).reverse.map fun p => (p.height, p.block) := by
  -- An effect adds a pass over a block that was served, and leaves the blocks of the other passes.
  have step : ∀ (log : List Pass) (e : Effect), (note log e).reverse.map (fun p => (p.height, p.block)) =
      log.reverse.map (fun p => (p.height, p.block)) ++ e.served?.toList := by
    intro log e
    cases e with
    | served height block => simp [note, Effect.served?]
    | wrote height success =>
      cases log with
      | nil => rfl
      | cons p log =>
        simp only [note]
        split <;> simp [Effect.served?]
    | cut =>
      cases log with
      | nil => rfl
      | cons p log =>
        simp only [note]
        split <;> simp [Effect.served?]
    | _ => cases log <;> simp [note, Effect.served?]
  have run : ∀ (t : List Effect) (log : List Pass), (t.foldl note log).reverse.map (fun p => (p.height, p.block)) =
      log.reverse.map (fun p => (p.height, p.block)) ++ servedBlocks t := by
    intro t
    induction t with
    | nil => exact fun log => (List.append_nil _).symm
    | cons e t ih =>
      intro log
      have hcons : servedBlocks (e :: t) = e.served?.toList ++ servedBlocks t := by
        cases h : e.served? <;> simp [servedBlocks, h]
      rw [List.foldl_cons, ih, step, hcons, List.append_assoc]
  exact (run effects []).symm

/-! ## Trails -/

/-- Passes that follow one another from a height on, and the height that the next one starts from. -/
inductive Trail (base : Nat) : List Pass → Nat → Prop where
  | nil : Trail base [] base
  | written {log : List Pass} {h : Nat} {p : Pass} : Trail base log h → p.height = h + 1 → p.calls = p.due →
      p.ending = .written → Trail base (p :: log) (h + 1)
  | failed {log : List Pass} {h h' : Nat} {p : Pass} : Trail base log h → p.height = h + 1 → p.calls = p.due →
      p.ending = .failed → h' = h ∨ h' = h + 1 → Trail base (p :: log) h'
  | cut {log : List Pass} {h : Nat} {p : Pass} : Trail base log h → p.height = h + 1 → p.calls <+: p.due →
      p.ending = .cut → Trail base (p :: log) h

namespace Trail
variable {base h : Nat} {log : List Pass}

/-- No pass of a trail goes on. -/
theorem settled (ht : Trail base log h) : ∀ p ∈ log, p.ending ≠ .running := by
  induction ht with
  | nil => exact fun _ hp => by cases hp
  | written _ _ _ hend ih | failed _ _ _ hend _ ih | cut _ _ _ hend ih =>
    intro q hq
    rcases List.mem_cons.1 hq with rfl | hq
    · rw [hend]; decide
    · exact ih q hq

theorem note_cut (ht : Trail base log h) : note log .cut = log := by
  cases log with
  | nil => rfl
  | cons p log =>
    have hp := ht.settled p List.mem_cons_self
    simp only [note, if_neg hp]

end Trail

/-- The passes tell all that was handed to the handler and all writes, and are cut no more often than the scan. -/
structure Told (t : List Effect) : Prop where
  calls : handlerCalls t = (passes t).reverse.flatMap Pass.calls
  writes (success : Bool) :
    heightWrites success t = (((passes t).filter (·.ending = .ofWrite success)).map Pass.height).reverse
  cuts : ((passes t).filter (·.ending = .cut)).length ≤ t.count .cut

namespace Told
variable {t : List Effect} {log : List Pass} {h : Nat} {block : Block} {calls : List (Transaction × Block)}

theorem nil : Told [] := ⟨rfl, fun _ => rfl, Nat.le_refl 0⟩

theorem served (ht : Told t) (h : Nat) (block : Block) : Told (t ++ [.served h block]) := by
  have hp : passes (t ++ [.served h block]) = ⟨h, block, [], .running⟩ :: passes t := passes_snoc t _
  refine ⟨?_, fun success => ?_, ?_⟩
  · simp [hp, ht.calls, Effect.call?]
  · cases success <;> simp [hp, ht.writes, Effect.write?, Ending.ofWrite]
  · simpa [hp] using ht.cuts

theorem appended (ht : Told t) (success : Bool) : Told (t ++ [.appended success]) := by
  have hp : passes (t ++ [.appended success]) = passes t := by
    rw [passes_snoc]
    cases passes t <;> rfl
  refine ⟨?_, fun success => ?_, ?_⟩
  · simp [hp, ht.calls, Effect.call?]
  · simp [hp, ht.writes, Effect.write?]
  · simpa [hp] using ht.cuts

theorem handled (ht : Told t) (hlog : passes t = ⟨h, block, calls, .running⟩ :: log) (tx : Transaction) :
    Told (t ++ [.handled tx block]) := by
  have hp : passes (t ++ [.handled tx block]) = ⟨h, block, calls ++ [(tx, block)], .running⟩ :: log := by
    rw [passes_snoc, hlog]
    rfl
  refine ⟨?_, fun success => ?_, ?_⟩
  · simp [hp, hlog, ht.calls, Effect.call?]
  · cases success <;> simp [hp, hlog, ht.writes, Effect.write?, Ending.ofWrite]
  · simpa [hp, hlog] using ht.cuts

theorem wrote (ht : Told t) (hlog : passes t = ⟨h, block, calls, .running⟩ :: log) (kept : Bool) :
    Told (t ++ [.wrote h kept]) := by
  have hp : passes (t ++ [.wrote h kept]) = ⟨h, block, calls, .ofWrite kept⟩ :: log := by
    rw [passes_snoc, hlog]
    simp [note]
  refine ⟨?_, fun success => ?_, ?_⟩
  · simp [hp, hlog, ht.calls, Effect.call?]
  · cases success <;> cases kept <;> simp [hp, hlog, ht.writes, Effect.write?, Ending.ofWrite]
  · have hcuts := ht.cuts
    cases kept <;> simpa [hp, hlog, Ending.ofWrite] using hcuts

theorem cut (ht : Told t) (hlog : passes t = ⟨h, block, calls, .running⟩ :: log) : Told (t ++ [.cut]) := by
  have hp : passes (t ++ [.cut]) = ⟨h, block, calls, .cut⟩ :: log := by
    rw [passes_snoc, hlog]
    rfl
  refine ⟨?_, fun success => ?_, ?_⟩
  · simp [hp, hlog, ht.calls, Effect.call?]
  · cases success <;> simp [hp, hlog, ht.writes, Effect.write?, Ending.ofWrite]
  · simpa [hp, hlog] using ht.cuts

/-- A cut where no pass goes on. -/
theorem idle (ht : Told t) (hlog : passes (t ++ [.cut]) = passes t) : Told (t ++ [.cut]) := by
  refine ⟨?_, fun success => ?_, ?_⟩
  · simp [hlog, ht.calls, Effect.call?]
  · simp [hlog, ht.writes, Effect.write?]
  · rw [hlog, List.count_append]
    exact Nat.le_add_right_of_le ht.cuts

end Told

/-! ## Between passes and within one -/

section Scans
variable {σ : Type} [CheckpointStore σ] [DurableStore σ] {base start : Nat} {s s' : σ} {t : List Effect} {c : Course σ}

/-- The height that a tick resumes from. -/
def resumption (start : Nat) (s : σ) : Nat := max (DurableStore.height s) start

/-- No pass goes on. -/
def Resting (base start : Nat) (c : Course σ) : Prop :=
  Trail base (passes c.effects) (resumption start c.store) ∧ Told c.effects

/-- A pass goes over a block and has handed these transactions to the handler. -/
def Scanning (base start h : Nat) (block : Block) (calls : List (Transaction × Block)) (c : Course σ) : Prop :=
  ∃ log, passes c.effects = ⟨h, block, calls, .running⟩ :: log ∧ Trail base log (resumption start c.store) ∧
    h = resumption start c.store + 1 ∧ Told c.effects

/-- A scan may be cut before each of its steps. -/
def scanLaw (σ : Type) [CheckpointStore σ] [DurableStore σ] (base start : Nat) : Law (Course σ) :=
  courseLaw fun c => Resting base start c.stop

theorem Resting.stop (hr : Resting base start c) : Resting base start c.stop := by
  obtain ⟨htrail, htold⟩ := hr
  have hp : passes (c.effects ++ [.cut]) = passes c.effects := by rw [passes_snoc, htrail.note_cut]
  refine ⟨?_, htold.idle hp⟩
  show Trail base (passes (c.effects ++ [.cut])) (resumption start c.store)
  rw [hp]
  exact htrail

namespace Scanning
variable {h : Nat} {block : Block} {done : List Transaction}

theorem stop (hs : Scanning base start h block (callsOf block done) c) (hb : done <+: block.transactions) :
    Resting base start c.stop := by
  obtain ⟨log, hlog, htrail, hh, htold⟩ := hs
  have hp : passes (c.effects ++ [.cut]) = ⟨h, block, callsOf block done, .cut⟩ :: log := by
    rw [passes_snoc, hlog]
    rfl
  refine ⟨?_, htold.cut hlog⟩
  show Trail base (passes (c.effects ++ [.cut])) (resumption start c.store)
  rw [hp]
  exact .cut htrail hh (hb.map _) rfl

/-- The next pass goes over the block behind the height that is resumed from. -/
theorem served (hr : Resting base start c) (block : Block) :
    Scanning base start (resumption start c.store + 1) block []
      ⟨c.effects ++ [.served (resumption start c.store + 1) block], c.store⟩ :=
  ⟨passes c.effects, passes_snoc c.effects _, hr.1, rfl, hr.2.served _ block⟩

theorem handled (hs : Scanning base start h block (callsOf block done) c) (tx : Transaction) :
    Scanning base start h block (callsOf block (done ++ [tx])) ⟨c.effects ++ [.handled tx block], c.store⟩ := by
  obtain ⟨log, hlog, htrail, hh, htold⟩ := hs
  refine ⟨log, ?_, htrail, hh, htold.handled hlog tx⟩
  rw [passes_snoc, hlog, callsOf, callsOf, List.map_append]
  rfl

theorem appended {calls : List (Transaction × Block)} (hs : Scanning base start h block calls c)
    {record : FailedRecord} {r : Except ClientError Unit} (ha : CheckpointStore.append record c.store = (r, s'))
    (success : Bool) : Scanning base start h block calls ⟨c.effects ++ [.appended success], s'⟩ := by
  obtain ⟨log, hlog, htrail, hh, htold⟩ := hs
  have hkept : resumption start s' = resumption start c.store := by
    rw [resumption, resumption, DurableStore.append ha]
  refine ⟨log, ?_, hkept ▸ htrail, hkept ▸ hh, htold.appended success⟩
  rw [passes_snoc, hlog]
  rfl

/-- A write that succeeds moves the height that is resumed from. -/
theorem written (hs : Scanning base start h block (callsOf block block.transactions) c) (hh : h < UInt64.size)
    (hw : CheckpointStore.writeHeight h c.store = (.ok (), s')) :
    Resting base start ⟨c.effects ++ [.wrote h true], s'⟩ ∧ resumption start s' = h := by
  obtain ⟨log, hlog, htrail, hnext, htold⟩ := hs
  have hresume : resumption start s' = h := by
    have hheight := DurableStore.write_ok hh hw
    unfold resumption at hnext ⊢
    omega
  refine ⟨⟨?_, htold.wrote hlog true⟩, hresume⟩
  have hp : passes (c.effects ++ [.wrote h true]) = ⟨h, block, callsOf block block.transactions, .written⟩ :: log := by
    rw [passes_snoc, hlog]
    simp [note, Ending.ofWrite]
  dsimp only
  rw [hp, hresume, hnext]
  exact .written htrail rfl rfl rfl

/-- A write that fails moves it or does not. -/
theorem failed {e : ClientError} (hs : Scanning base start h block (callsOf block block.transactions) c)
    (hh : h < UInt64.size) (hw : CheckpointStore.writeHeight h c.store = (.error e, s')) :
    Resting base start ⟨c.effects ++ [.wrote h false], s'⟩ := by
  obtain ⟨log, hlog, htrail, hnext, htold⟩ := hs
  refine ⟨?_, htold.wrote hlog false⟩
  have hp : passes (c.effects ++ [.wrote h false]) = ⟨h, block, callsOf block block.transactions, .failed⟩ :: log := by
    rw [passes_snoc, hlog]
    simp [note, Ending.ofWrite]
  dsimp only
  rw [hp]
  refine .failed htrail hnext rfl rfl ?_
  have hheight := DurableStore.write_error hh hw
  unfold resumption at hnext ⊢
  omega

end Scanning

/-! ## The steps of a tick -/

/-- Between passes, a plain step changes nothing. -/
theorem Program.Obeys.plain (op : Op) (hop : op.Plain) (hr : Resting base start c) {post : op.Answer → Course σ → Prop}
    (h : ∀ r, post r c) : (Program.perform op).Obeys (scanLaw σ base start) post c :=
  .steady (fun _ _ hl => courseLaw_plain hop hl) hr.stop h

theorem record_obeys {h : Nat} {block : Block} {done : List Transaction} (tx : Transaction) (causes : List String)
    (hs : Scanning base start h block (callsOf block done) c) (hb : done <+: block.transactions) :
    (Scanner.record tx block causes).Obeys (scanLaw σ base start)
      (fun _ => Scanning base start h block (callsOf block done)) c := by
  have hclock : Op.Plain .clock := trivial
  refine .bind (.steady (fun _ _ hl => courseLaw_plain hclock hl) (hs.stop hb) fun recordedAt => ?_)
  refine .bind (.perform (hs.stop hb) fun r c' hl => ?_)
  obtain ⟨s', hl, rfl⟩ := hl
  exact hs.appended hl.symm _

/-- All transactions of a block are handed to the handler, whatever it makes of them. -/
theorem handleAll_obeys {h : Nat} {block : Block} (scanner : Scanner) (rest : List Transaction) :
    ∀ (done : List Transaction) (c : Course σ), block.transactions = done ++ rest →
      Scanning base start h block (callsOf block done) c →
      (scanner.handleAll block rest).Obeys (scanLaw σ base start)
        (fun _ => Scanning base start h block (callsOf block block.transactions)) c := by
  -- The pass has handed out `done`; what is left of the block is `rest`.
  induction rest with
  | nil =>
    intro done c hb hs
    rw [hb, List.append_nil]
    exact hs
  | cons tx rest ih =>
    intro done c hb hs
    have hprefix : done <+: block.transactions := ⟨tx :: rest, hb.symm⟩
    have hb' : block.transactions = (done ++ [tx]) ++ rest := by
      rw [hb, List.append_assoc]
      rfl
    refine .bind (.perform (hs.stop hprefix) fun r c' hl => ?_)
    obtain ⟨s', rfl, rfl⟩ := hl
    have hs' := hs.handled tx
    cases r with
    | none => exact ih (done ++ [tx]) _ hb' hs'
    | some causes =>
      refine .bind ((record_obeys tx causes hs' ⟨rest, hb'.symm⟩).mono fun _ c hs => ?_)
      exact .bind ((ih (done ++ [tx]) c hb' hs).mono fun _ _ hs => hs)

/-- A block that is not served begins no pass. -/
theorem fetch_obeys (conn : Connection) {last : Nat} (hr : Resting base start c) (hlast : resumption start c.store = last) :
    (Scanner.fetch conn (last + 1)).run.Obeys (scanLaw σ base start)
      (fun
        | .ok block => Scanning base start (last + 1) block (callsOf block [])
        | .error _ => Resting base start) c := by
  subst hlast
  refine .action (.perform hr.stop fun r c' hl => ?_)
  obtain ⟨s', rfl, rfl⟩ := hl
  -- A failed question and a missing block have no effect.
  have hunserved : Resting base start ⟨c.effects ++ [], c.store⟩ := by
    rw [List.append_nil]
    exact hr
  cases r with
  | error e => exact hunserved
  | ok found =>
    cases found with
    | none => exact hunserved
    | some block => exact Scanning.served hr block

/-- A block is handled as a whole before its height is written. -/
theorem scanNext_obeys (scanner : Scanner) (conn : Connection) (p : Progress) (hr : Resting base start c)
    (hlast : resumption start c.store = p.last) (hsize : p.last + 1 < UInt64.size) :
    (scanner.scanNext conn p).run.Obeys (scanLaw σ base start)
      (fun
        | .ok q => fun c => (Resting base start c ∧ resumption start c.store = q.last) ∧ q.last = p.last + 1
        | .error _ => Resting base start) c := by
  refine .action ((fetch_obeys conn hr hlast).mono fun r c hr => ?_)
  cases r with
  | error e => exact hr
  | ok block =>
    refine .program ((handleAll_obeys scanner block.transactions [] c rfl hr).mono fun failed c hs => ?_)
    refine .action (.perform (hs.stop (List.prefix_refl _)) fun r c' hl => ?_)
    obtain ⟨s', hl, rfl⟩ := hl
    cases r with
    | error e => exact hs.failed hsize hl.symm
    | ok _ => exact ⟨hs.written hsize hl.symm, rfl⟩

theorem scanBlocks_obeys (scanner : Scanner) (ctx : Context) (conn : Connection) (left : Nat) :
    ∀ (p : Progress) (c : Course σ), Resting base start c → resumption start c.store = p.last →
      p.last + left < UInt64.size →
      (scanner.scanBlocks ctx conn left p).run.Obeys (scanLaw σ base start) (fun _ => Resting base start) c := by
  induction left with
  | zero => exact fun p c hr _ _ => hr
  | succ left ih =>
    intro p c hr hlast hsize
    refine .program (.plain (.isDone ctx) trivial hr fun ended => ?_)
    cases ended with
    | true => exact hr
    | false =>
      refine .action ((scanNext_obeys scanner conn p hr hlast (by omega)).mono fun r c hr => ?_)
      cases r with
      | error e => exact hr
      | ok q =>
        obtain ⟨⟨hr, hlast⟩, hnext⟩ := hr
        have hrest := ih q c hr hlast (by omega)
        -- The pause between two blocks may end the tick, but it ends no pass.
        dsimp only
        split
        · refine .program (.plain (.pause ctx scanner.delay) trivial hr fun ended => ?_)
          cases ended with
          | true => exact hr
          | false => exact hrest
        · exact hrest

theorem tickOver_obeys (scanner : Scanner) (ctx : Context) (conn : Connection) (hr : Resting base scanner.start c) :
    (scanner.tickOver ctx conn).run.Obeys (scanLaw σ base scanner.start) (fun _ => Resting base scanner.start) c := by
  refine .action (.plain (.ask conn .blockNumber) trivial hr fun answer => ?_)
  cases answer with
  | error e => exact hr
  | ok highest =>
    refine .action (.perform hr.stop fun r c' hl => ?_)
    obtain ⟨s', ⟨hread, rfl⟩, rfl⟩ := hl
    have hnone : c.step .readHeight r c.store = c := by
      rw [Course.step, show Op.effect? .readHeight r = none from rfl, Option.toList_none, List.append_nil]
    rw [hnone]
    cases r with
    | error e => exact hr
    | ok height =>
      have hresume : resumption scanner.start c.store = max height scanner.start := by
        rw [resumption, DurableStore.read hread.symm]
      dsimp only
      split
      · exact hr
      · -- All heights of the tick lie below the highest block, whose height has 64 bits.
        have hbound := highest.isLt
        have hsize : max height scanner.start + (highest.toNat - 1 - max height scanner.start) < UInt64.size := by
          simp only [UInt64.size]
          omega
        refine .action ((scanBlocks_obeys scanner ctx conn _ _ c hr hresume hsize).mono fun r c hr => ?_)
        cases r with
        | error e => exact hr
        | ok p =>
          dsimp only
          split
          · exact hr
          · exact hr

theorem Op.OfLease.plain {op : Op} (h : op.OfLease) : op.Plain := by
  cases op with
  | take | isClosed | dial | put _ | destroy _ => trivial
  | _ => exact absurd h id

/-- A lease leaves the course as it is. -/
theorem leasing_obeys {α : Type} {p : Program α} (hp : p.Only Op.OfLease) (hr : Resting base start c) :
    p.Obeys (scanLaw σ base start) (fun _ => Resting base start) c := by
  refine hp.keeps (fun op hop c hr => ⟨hr.stop, fun r c' hl => ?_⟩) hr
  rw [courseLaw_plain hop.plain hl]
  exact hr

/-- A tick prolongs the trail, wherever it ends. -/
theorem tick_obeys (scanner : Scanner) (ctx : Context) (hr : Resting base scanner.start c) :
    (scanner.tick ctx).run.Obeys (scanLaw σ base scanner.start) (fun _ => Resting base scanner.start) c := by
  refine .bind (.plain (.lock scanner.lock) trivial hr fun _ => ?_)
  refine .bind (.bind ((leasing_obeys acquire_steps hr).mono fun r c hr => ?_))
  have hunlock (r : Except ClientError TickOutcome) {c : Course σ} (hr : Resting base scanner.start c) :
      (do Program.perform (.unlock scanner.lock); return r : Program _).Obeys (scanLaw σ base scanner.start)
        (fun _ => Resting base scanner.start) c :=
    .bind (.plain (.unlock scanner.lock) trivial hr fun _ => hr)
  cases r with
  | error e => exact hunlock _ hr
  | ok conn =>
    refine .bind ((tickOver_obeys scanner ctx conn hr).mono fun r c hr => ?_)
    exact .bind ((leasing_obeys (giveBack_steps conn) hr).mono fun _ c hr => hunlock r hr)

/-! ## Scans -/

variable {ν : Type} [Node ν]

/-- A tick to come: the scanner that is to be, all but its start, and the worlds that its steps find. -/
structure Turn (ν σ : Type) where
  scanner : Scanner
  ctx : Context
  worlds : Nat → World ν σ

/-- Ticks one after the other over one store, each cut after so many steps if it has a limit. -/
def scanCourse (start : Nat) (turns : List (Turn ν σ × Option Nat)) (s : σ) : Course σ :=
  turns.foldl (fun c (turn, limit) => ({ turn.scanner with start }.tick turn.ctx).run.course turn.worlds limit c) ⟨[], s⟩

/-- Any number of ticks leaves a trail behind. -/
theorem scanCourse_resting (start : Nat) (turns : List (Turn ν σ × Option Nat)) (s : σ) :
    Resting (resumption start s) start (scanCourse start turns s) := by
  have hrun : ∀ (turns : List (Turn ν σ × Option Nat)) (c : Course σ), Resting (resumption start s) start c →
      Resting (resumption start s) start (turns.foldl (fun c (turn, limit) =>
        ({ turn.scanner with start }.tick turn.ctx).run.course turn.worlds limit c) c) := by
    intro turns
    induction turns with
    | nil => exact fun c hr => hr
    | cons turn rest ih =>
      intro c hr
      have htick := tick_obeys { turn.1.scanner with start } turn.1.ctx hr
      exact ih _ (course_ends htick (fun _ h => h) (fun _ _ h => h) turn.1.worlds turn.2)
  exact hrun turns ⟨[], s⟩ ⟨.nil, .nil⟩

end Scans
end EvmClient
