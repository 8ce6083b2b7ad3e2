import EvmClient.Proofs.Interleaving
import EvmClient.Scan

/-
The order of a tick's steps.

   A tick takes its lock, reads the height once, and then goes over one block after the other: the block is asked
   for by the height that follows, its transactions are handed to the handler in order, the record of one that
   failed is appended at once, and the height is written last. Before it ends it gives the lock back. `TickState`
   says where in this order a tick stands, so its law tells at each step what the steps before must have been.

   1. `TickState.Allows.move` — all that a step can do, in one place.
   2. `tick_follows` — a tick obeys the law, whatever its steps are answered.
   3. `Program.Ran.tick_allowed`, `Program.Ran.tick_ended` — what this says of the steps that a tick took.
   4. `TaskSystem.ticks_induct` — what the steps of ticks keep that run at the same time. -/
namespace EvmClient

/-! ## The law -/

/-- The steps that may come between two blocks. -/
def Op.Idle : Op → Prop
  | .take | .isClosed | .dial | .put _ | .destroy _ | .isDone _ | .pause _ _ | .ask _ .blockNumber => True
  | _ => False

inductive TickState where
  | begun
  /-- The lock is taken, and the height is not read yet. -/
  | locked
  /-- All blocks up to this height are done with. -/
  | ready (last : Nat)
  /-- The block behind the last height is gone over; these transactions are left. -/
  | handing (last : Nat) (block : Block) (left : List Transaction)
  /-- The handler failed, and the time of the record is to be asked for. -/
  | owing (last : Nat) (block : Block) (left : List Transaction) (tx : Transaction) (causes : List String)
  /-- The record is to be appended. -/
  | dated (last : Nat) (block : Block) (left : List Transaction) (record : FailedRecord)
  /-- No more blocks are gone over. -/
  | leaving
  | released

namespace TickState

/-- The state after a step, by its answer. -/
def after (start : Nat) : TickState → (op : Op) → op.Answer → TickState
  | .begun, .lock _, _ => .locked
  | .locked, .readHeight, .ok height => .ready (max height start)
  | .locked, .readHeight, .error _ => .leaving
  | .ready last, .ask _ (.blockByHeight _), .ok (some block) => .handing last block block.transactions
  | .ready _, .ask _ (.blockByHeight _), _ => .leaving
  | .handing last block (_ :: left), .handle _ _ _, none => .handing last block left
  | .handing last block (tx :: left), .handle _ _ _, some causes => .owing last block left tx causes
  | .handing last _ [], .writeHeight _, .ok _ => .ready (last + 1)
  | .handing _ _ [], .writeHeight _, .error _ => .leaving
  | .owing last block left tx causes, .clock, time =>
    .dated last block left (.ofTransaction tx block (Verdict.text causes) time)
  | .dated last block left _, .append _, _ => .handing last block left
  | _, .unlock _, _ => .released
  | k, _, _ => k

/-- No block is gone over, and the lock is held. -/
def Between : TickState → Prop
  | .locked | .ready _ | .leaving => True
  | _ => False

def Allows (scanner : Scanner) : TickState → Op → Prop
  | .begun, op => op = .lock scanner.lock
  | .locked, op => op.Idle ∨ op = .unlock scanner.lock ∨ op = .readHeight
  | .ready last, op =>
    op.Idle ∨ op = .unlock scanner.lock ∨ (∃ c, op = .ask c (.blockByHeight (last + 1))) ∧ last + 1 < UInt64.size
  | .handing last _ [], op => op = .writeHeight (last + 1) ∧ last + 1 < UInt64.size
  | .handing _ block (tx :: _), op => op = .handle scanner.handler tx block
  | .owing _ _ _ _ _, op => op = .clock
  | .dated _ _ _ record, op => op = .append record
  | .leaving, op => op.Idle ∨ op = .unlock scanner.lock
  | .released, _ => False

variable {k : TickState} {op : Op}

theorem after_idle (start : Nat) (hk : k.Between) (hop : op.Idle) (r : op.Answer) : k.after start op r = k := by
  cases k with
  | locked | ready _ | leaving =>
    cases op with
    | ask c query =>
      cases query with
      | blockNumber => rfl
      | _ => exact absurd hop id
    | take | isClosed | dial | put _ | destroy _ | isDone _ | pause _ _ => rfl
    | _ => exact absurd hop id
  | _ => exact absurd hk id

theorem after_unlock (start id : Nat) (k : TickState) : k.after start (.unlock id) () = .released := by
  cases k with
  | handing last block left => cases left <;> rfl
  | _ => rfl

theorem allows_idle (scanner : Scanner) (hk : k.Between) (hop : op.Idle) : k.Allows scanner op := by
  cases k with
  | locked | ready _ | leaving => exact .inl hop
  | _ => exact absurd hk id

theorem allows_unlock (scanner : Scanner) (hk : k.Between) : k.Allows scanner (.unlock scanner.lock) := by
  cases k with
  | locked | ready _ => exact .inr (.inl rfl)
  | leaving => exact .inr rfl
  | _ => exact absurd hk id

end TickState

/-- The steps of a scanner's tick, in their order. -/
def tickLaw (scanner : Scanner) : Law TickState where
  allows := TickState.Allows scanner
  leads k op r k' := k' = k.after scanner.start op r

/-- All that a step can do. -/
inductive TickMove (scanner : Scanner) : TickState → (op : Op) → op.Answer → TickState → Prop where
  | lock : TickMove scanner .begun (.lock scanner.lock) () .locked
  | unlock {k : TickState} : k.Between → TickMove scanner k (.unlock scanner.lock) () .released
  | idle {k : TickState} {op : Op} {r : op.Answer} : k.Between → op.Idle → TickMove scanner k op r k
  | read (height : Nat) : TickMove scanner .locked .readHeight (.ok height) (.ready (max height scanner.start))
  | unread (e : ClientError) : TickMove scanner .locked .readHeight (.error e) .leaving
  | served (last : Nat) (c : Connection) (block : Block) :
    TickMove scanner (.ready last) (.ask c (.blockByHeight (last + 1))) (.ok (some block))
      (.handing last block block.transactions)
  | unserved (last : Nat) (c : Connection) (r : Except ClientError (Option Block)) :
    TickMove scanner (.ready last) (.ask c (.blockByHeight (last + 1))) r .leaving
  | succeeded (last : Nat) (block : Block) (tx : Transaction) (left : List Transaction) :
    TickMove scanner (.handing last block (tx :: left)) (.handle scanner.handler tx block) none (.handing last block left)
  | failed (last : Nat) (block : Block) (tx : Transaction) (left : List Transaction) (causes : List String) :
    TickMove scanner (.handing last block (tx :: left)) (.handle scanner.handler tx block) (some causes)
      (.owing last block left tx causes)
  | dated (last : Nat) (block : Block) (left : List Transaction) (tx : Transaction) (causes : List String)
    (time : Timestamp) : TickMove scanner (.owing last block left tx causes) .clock time
      (.dated last block left (.ofTransaction tx block (Verdict.text causes) time))
  | appended (last : Nat) (block : Block) (left : List Transaction) (record : FailedRecord)
    (r : Except ClientError Unit) :
    TickMove scanner (.dated last block left record) (.append record) r (.handing last block left)
  | wrote (last : Nat) (block : Block) : last + 1 < UInt64.size →
    TickMove scanner (.handing last block []) (.writeHeight (last + 1)) (.ok ()) (.ready (last + 1))
  | unwritten (last : Nat) (block : Block) (e : ClientError) : last + 1 < UInt64.size →
    TickMove scanner (.handing last block []) (.writeHeight (last + 1)) (.error e) .leaving

/-- A step that may come is one of these. -/
theorem TickState.Allows.move {scanner : Scanner} {k : TickState} {op : Op} (hop : k.Allows scanner op) (r : op.Answer) :
    TickMove scanner k op r (k.after scanner.start op r) := by
  have hidle (hk : k.Between) (hop : op.Idle) : TickMove scanner k op r (k.after scanner.start op r) := by
    rw [after_idle scanner.start hk hop r]
    exact .idle hk hop
  cases k with
  | begun =>
    obtain rfl : op = .lock scanner.lock := hop
    exact .lock
  | locked =>
    rcases hop with h | rfl | rfl
    · exact hidle trivial h
    · exact .unlock (k := .locked) trivial
    · cases r with
      | ok height => exact .read height
      | error e => exact .unread e
  | ready last =>
    rcases hop with h | rfl | ⟨⟨c, rfl⟩, -⟩
    · exact hidle trivial h
    · exact .unlock (k := .ready last) trivial
    · rcases r with e | none | block
      · exact .unserved last c _
      · exact .unserved last c _
      · exact .served last c block
  | handing last block left =>
    cases left with
    | nil =>
      obtain ⟨rfl, hsize⟩ := hop
      cases r with
      | ok _ => exact .wrote last block hsize
      | error e => exact .unwritten last block e hsize
    | cons tx left =>
      obtain rfl : op = .handle scanner.handler tx block := hop
      cases r with
      | none => exact .succeeded last block tx left
      | some causes => exact .failed last block tx left causes
  | owing last block left tx causes =>
    obtain rfl : op = .clock := hop
    exact .dated last block left tx causes r
  | dated last block left record =>
    obtain rfl : op = .append record := hop
    exact .appended last block left record r
  | leaving =>
    rcases hop with h | rfl
    · exact hidle trivial h
    · exact .unlock (k := .leaving) trivial
  | released => exact absurd hop id

/-! ## A tick obeys it -/

section Obeys
variable {scanner : Scanner} {k : TickState}

theorem Program.Obeys.idle (op : Op) (hop : op.Idle) (hk : k.Between) {post : op.Answer → TickState → Prop}
    (h : ∀ r, post r k) : (Program.perform op).Obeys (tickLaw scanner) post k :=
  .steady (fun r _ hl => hl.trans (TickState.after_idle scanner.start hk hop r)) (TickState.allows_idle scanner hk hop) h

variable {last : Nat} {block : Block}

theorem record_follows (left : List Transaction) (tx : Transaction) (causes : List String) :
    (Scanner.record tx block causes).Obeys (tickLaw scanner) (fun _ k => k = .handing last block left)
      (.owing last block left tx causes) := by
  refine .bind (.perform rfl fun time k htime => ?_)
  cases htime
  refine .bind (.perform rfl fun r k happend => ?_)
  cases happend
  rfl

theorem handleAll_follows (left : List Transaction) :
    (scanner.handleAll block left).Obeys (tickLaw scanner) (fun _ k => k = .handing last block [])
      (.handing last block left) := by
  induction left with
  | nil => rfl
  | cons tx left ih =>
    refine .bind (.perform rfl fun r k hhandle => ?_)
    cases r with
    | none =>
      cases hhandle
      exact ih
    | some causes =>
      cases hhandle
      refine .bind ((record_follows left tx causes).mono fun _ k hk => ?_)
      subst hk
      exact .bind (ih.mono fun _ _ hk => hk)

theorem fetch_follows (c : Connection) (hsize : last + 1 < UInt64.size) :
    (Scanner.fetch c (last + 1)).run.Obeys (tickLaw scanner)
      (fun
        | .ok block => fun k => k = .handing last block block.transactions
        | .error _ => fun k => k = .leaving) (.ready last) := by
  refine .action (.perform (.inr (.inr ⟨⟨c, rfl⟩, hsize⟩)) fun r k hask => ?_)
  cases r with
  | error e => exact hask
  | ok found =>
    cases found with
    | none => exact hask
    | some block => exact hask

theorem scanNext_follows (c : Connection) (p : Progress) (hsize : p.last + 1 < UInt64.size) :
    (scanner.scanNext c p).run.Obeys (tickLaw scanner)
      (fun
        | .ok q => fun k => k = .ready q.last ∧ q.last = p.last + 1
        | .error _ => fun k => k = .leaving) (.ready p.last) := by
  refine .action ((fetch_follows c hsize).mono fun r k hk => ?_)
  cases r with
  | error e => exact hk
  | ok block =>
    subst hk
    refine .program ((handleAll_follows block.transactions).mono fun failed k hk => ?_)
    subst hk
    refine .action (.perform ⟨rfl, hsize⟩ fun r k hwrite => ?_)
    cases r with
    | error e => exact hwrite
    | ok _ => exact ⟨hwrite, rfl⟩

theorem scanBlocks_follows (ctx : Context) (c : Connection) (blocks : Nat) :
    ∀ p : Progress, p.last + blocks < UInt64.size →
      (scanner.scanBlocks ctx c blocks p).run.Obeys (tickLaw scanner) (fun _ => TickState.Between) (.ready p.last) := by
  induction blocks with
  | zero => exact fun _ _ => trivial
  | succ blocks ih =>
    intro p hsize
    refine .program (.idle (k := .ready p.last) (.isDone ctx) trivial trivial fun ended => ?_)
    cases ended with
    | true => exact trivial
    | false =>
      refine .action ((scanNext_follows c p (by omega)).mono fun r k hk => ?_)
      cases r with
      | error e =>
        subst hk
        exact trivial
      | ok q =>
        obtain ⟨rfl, hnext⟩ := hk
        have hrest := ih q (by omega)
        dsimp only
        split
        · refine .program (.idle (k := .ready q.last) (.pause ctx scanner.delay) trivial trivial fun ended => ?_)
          cases ended with
          | true => exact trivial
          | false => exact hrest
        · exact hrest

theorem tickOver_follows (ctx : Context) (c : Connection) :
    (scanner.tickOver ctx c).run.Obeys (tickLaw scanner) (fun _ => TickState.Between) .locked := by
  refine .action (.idle (k := .locked) (.ask c .blockNumber) trivial trivial fun answer => ?_)
  cases answer with
  | error e => exact trivial
  | ok highest =>
    refine .action (.perform (.inr (.inr rfl)) fun r k hread => ?_)
    cases r with
    | error e =>
      cases hread
      exact trivial
    | ok height =>
      cases hread
      dsimp only
      split
      · exact trivial
      · -- All heights of the tick lie below the highest block, whose height has 64 bits.
        have hbound := highest.isLt
        have hsize : max height scanner.start + (highest.toNat - 1 - max height scanner.start) < UInt64.size := by
          simp only [UInt64.size]
          omega
        refine .action ((scanBlocks_follows ctx c _ _ hsize).mono fun r k hk => ?_)
        cases r with
        | error e => exact hk
        | ok p =>
          dsimp only
          split
          · exact hk
          · exact hk

theorem Op.OfLease.idle {op : Op} (h : op.OfLease) : op.Idle := by
  cases op with
  | take | isClosed | dial | put _ | destroy _ => trivial
  | _ => exact absurd h id

/-- Between blocks a lease is none of the law's business. -/
theorem leasing_follows {α : Type} {p : Program α} (hp : p.Only Op.OfLease) (hk : k.Between) :
    p.Obeys (tickLaw scanner) (fun _ => (· = k)) k := by
  refine hp.keeps ?_ rfl
  rintro op hop _ rfl
  exact ⟨TickState.allows_idle scanner hk hop.idle, fun r _ hl => hl.trans (TickState.after_idle _ hk hop.idle r)⟩

/-- A tick keeps to the order, whatever its steps are answered, and has given the lock back in the end. -/
theorem tick_follows (scanner : Scanner) (ctx : Context) :
    (scanner.tick ctx).run.Obeys (tickLaw scanner) (fun _ => (· = .released)) .begun := by
  refine .bind (.perform rfl fun r k hlock => ?_)
  cases hlock
  have hunlock : ∀ (r : Except ClientError TickOutcome) (k : TickState), k.Between →
      (Program.perform (.unlock scanner.lock) >>= fun _ => pure r).Obeys (tickLaw scanner)
        (fun _ => (· = .released)) k := by
    intro r k hk
    refine .bind (.perform (TickState.allows_unlock scanner hk) fun _ k' hl => ?_)
    exact hl.trans (TickState.after_unlock scanner.start scanner.lock k)
  refine .bind (.bind ((leasing_follows (k := .locked) acquire_steps trivial).mono fun r k hk => ?_))
  subst hk
  cases r with
  | error e => exact hunlock _ _ trivial
  | ok c =>
    refine .bind ((tickOver_follows ctx c).mono fun r k hk => ?_)
    exact .bind ((leasing_follows (giveBack_steps c) hk).mono fun _ k' hk' => hunlock r k' (hk' ▸ hk))

end Obeys

/-! ## The steps of a tick -/

section Steps
variable {ν σ : Type} [Node ν] [CheckpointStore σ] {scanner : Scanner} {ctx : Context}

/-- Where a tick stands after its steps. -/
def tickState (scanner : Scanner) (es : List (TaskStep ν σ)) : TickState :=
  es.foldl (fun k e => k.after scanner.start e.op e.answer) .begun

theorem tickState_snoc (scanner : Scanner) (es : List (TaskStep ν σ)) (e : TaskStep ν σ) :
    tickState scanner (es ++ [e]) = (tickState scanner es).after scanner.start e.op e.answer := List.foldl_append

namespace Program.Ran
variable {es : List (TaskStep ν σ)} {p : Program (Except ClientError TickOutcome)}

/-- Each step is one that may come where the tick stands. -/
theorem tick_allowed {before rest : List (TaskStep ν σ)} {e : TaskStep ν σ}
    (h : (scanner.tick ctx).run.Ran (before ++ e :: rest) p) : (tickState scanner before).Allows scanner e.op :=
  h.allowed (tick_follows scanner ctx) fun _ _ _ => rfl

/-- The next step, too. -/
theorem tick_next {op : Op} {next : op.Answer → Program (Except ClientError TickOutcome)}
    (h : (scanner.tick ctx).run.Ran es (.step op next)) : (tickState scanner es).Allows scanner op :=
  (h.obeys (tick_follows scanner ctx) fun _ _ _ => rfl).1

/-- A tick has come to its end exactly if it has given the lock back. -/
theorem tick_ended (h : (scanner.tick ctx).run.Ran es p) : p.isDone = true ↔ tickState scanner es = .released := by
  have hobeys := h.obeys (tick_follows scanner ctx) fun _ _ _ => rfl
  cases p with
  | done a => exact ⟨fun _ => hobeys, fun _ => rfl⟩
  | step op next =>
    have hallows : (tickState scanner es).Allows scanner op := hobeys.1
    constructor
    · intro hdone
      cases hdone
    · intro hreleased
      rw [hreleased] at hallows
      exact absurd hallows id

end Program.Ran

/-- Ticks that run at the same time over one store, each of a scanner and with a context of its own. -/
def TaskSystem.ticks (scanner : Nat → Scanner) (ctx : Nat → Context) (w : World ν σ) :
    TaskSystem (Except ClientError TickOutcome) ν σ :=
  .initial (fun task => ((scanner task).tick (ctx task)).run) w

theorem tickState_stepped (scanner : Scanner) (s : TaskSystem (Except ClientError TickOutcome) ν σ) (task : Nat) (op : Op)
    (next : op.Answer → Program (Except ClientError TickOutcome)) :
    tickState scanner ((s.stepped task op next).stepsOf task) =
      (tickState scanner (s.stepsOf task)).after scanner.start op (s.world.perform op).1 := by
  rw [s.stepsOf_stepped_self, tickState_snoc]
  rfl

/-- What the ticks' steps and the changes from outside keep, a whole run keeps. A step is one that may come where its
tick stands. -/
theorem TaskSystem.ticks_induct {scanner : Nat → Scanner} {ctx : Nat → Context} {w : World ν σ}
    {P : TaskSystem (Except ClientError TickOutcome) ν σ → Prop} (hinitial : P (ticks scanner ctx w))
    (hstep : ∀ s task op next, (tickState (scanner task) (s.stepsOf task)).Allows (scanner task) op →
      s.world.enabled op = true → P s → P (s.stepped task op next))
    (houtside : ∀ s w', P s → P (s.move (.outside w'))) (moves : List (TaskMove ν σ)) :
    P ((ticks scanner ctx w).run moves) := by
  refine (run_induct hinitial ?_ houtside moves).2
  intro s task op next htraced hrest henabled hs
  have hran := htraced.ran task
  rw [hrest] at hran
  exact hstep s task op next hran.tick_next henabled hs

end Steps
end EvmClient
