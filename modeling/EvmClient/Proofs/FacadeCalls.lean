import EvmClient.Proofs.Law
import EvmClient.Proofs.RequestChecks

/-
The calls of the client and the connections that they hold.

   A call reads its texts, holds a connection for the time of its work, and gives it back. A scan does so once
   for each tick. What is done in between has nothing to do with the pool: it asks the node, waits, and works on
   the store. So what a law has to say of such a call is what it says of taking a connection and of giving it
   back, if it says nothing of the other steps.

   1. `Program.Only.lenient` — a program that leaves the pool alone obeys such a law.
   2. `Leases.withConnection` — so does one that holds a connection for the time of a program like this.
   3. `FacadeCall.obeys` — and so does each call, whatever its steps are answered. -/
namespace EvmClient

/-! ## Programs that leave the pool alone -/

/-- The steps that are none of the pool's. -/
def Op.Aside : Op → Prop
  | .take | .isClosed | .dial | .put _ | .destroy _ | .markClosed | .drain => False
  | _ => True

/-! ## What is done over a connection -/

section Bodies
open EvmClient.Action

theorem decimals_aside (c : Connection) (contract : Address) : Only Op.Aside (Token.decimals c contract) :=
  .bind (.ask trivial) fun _ => .except _

theorem balanceOf_aside (c : Connection) (contract owner : Address) : Only Op.Aside (Token.balanceOf c contract owner) :=
  .bind (.ask trivial) fun _ => .except _

theorem content_aside (config : Config) (c : Connection) (sender : Address) (t : Transfer) :
    Only Op.Aside (t.content config c sender) := by
  cases t with
  | native payee amount => exact .bind (.except _) fun _ => .pure _
  | token contract payee amount =>
    refine .bind (decimals_aside c contract) fun _ => .bind (.except _) fun units => ?_
    refine .bind (balanceOf_aside c contract sender) fun balance => .ite (.throw _) ?_
    exact .bind (.ask trivial) fun _ => .pure _
  | rawCall contract data => exact .bind (.ask trivial) fun _ => .pure _

theorem submit_aside (config : Config) (c : Connection) (t : Transfer) (signer : Signer) (policy : NoncePolicy) :
    Only Op.Aside (t.submit config c signer policy) := by
  have hguard : Only Op.Aside (Transfer.checkGuard c signer.address policy) := by
    cases policy with
    | guarded given => exact .bind (.ask trivial) fun _ => .ite (.throw _) (.pure _)
    | _ => exact .pure _
  have hnonce : Only Op.Aside (Transfer.chooseNonce c signer.address policy) := by
    unfold Transfer.chooseNonce
    split
    · exact .pure _
    · exact .ask trivial
  refine .bind hguard fun _ => .bind (content_aside config c signer.address t) fun content => ?_
  refine .bind (.ask trivial) fun balance => .bind (.ask trivial) fun price => .bind (.except _) fun _ => ?_
  exact .bind hnonce fun nonce => .bind (.except _) fun signed => .ask trivial

theorem poll_aside (interval : Nat) (ctx : Context) (c : Connection) (hash : Hash) (left attempts : Nat) :
    Only Op.Aside (Confirmation.poll interval ctx c hash left attempts) := by
  induction left generalizing attempts with
  | zero => exact .pure _
  | succ left ih =>
    refine .bind (.program (.perform trivial)) fun late => .ite (.throw _) ?_
    refine .bind (.program (.perform trivial)) fun ended => .ite (.throw _) ?_
    refine .bind (.outcome (.ask trivial)) fun answer => ?_
    split
    · exact .except _
    · exact ih (attempts + 1)

/-- The steps with which a scanner goes over the transactions of a block. -/
def Op.OfHandling (s : Scanner) : Op → Prop
  | .clock | .append _ => True
  | .handle handler _ _ => handler = s.handler
  | _ => False

/-- The steps with which a scanner goes over blocks. -/
def Op.OfBlocks (s : Scanner) : Op → Prop
  | .ask _ _ | .isDone _ | .clock | .readHeight | .writeHeight _ | .append _ => True
  | .handle handler _ _ => handler = s.handler
  | .pause _ span => span = s.delay ∧ span ≠ 0
  | _ => False

theorem Op.OfHandling.ofBlocks {s : Scanner} {op : Op} (h : op.OfHandling s) : op.OfBlocks s := by
  cases op with
  | clock | append _ | handle _ _ _ => exact h
  | _ => exact absurd h id

theorem handleAll_steps (s : Scanner) (block : Block) (txs : List Transaction) :
    (s.handleAll block txs).Only (Op.OfHandling s) := by
  induction txs with
  | nil => exact trivial
  | cons tx rest ih =>
    refine .bind (.perform rfl) fun r => ?_
    cases r with
    | none => exact ih
    | some causes =>
      have hrecord : (Scanner.record tx block causes).Only (Op.OfHandling s) :=
        .bind (.perform trivial) fun _ => .bind (.perform trivial) fun _ => trivial
      exact .bind hrecord fun _ => .bind ih fun _ => trivial

theorem scanNext_steps (s : Scanner) (c : Connection) (p : Progress) : Only (Op.OfBlocks s) (s.scanNext c p) := by
  have hfetch : Only (Op.OfBlocks s) (Scanner.fetch c (p.last + 1)) := by
    refine .bind (.ask trivial) fun found => ?_
    cases found with
    | none => exact .throw _
    | some block => exact .pure _
  have hhandle (block : Block) : (s.handleAll block block.transactions).Only (Op.OfBlocks s) :=
    (handleAll_steps s block _).imp fun _ => Op.OfHandling.ofBlocks
  refine .bind hfetch fun block => .bind (.program (hhandle block)) fun failed => ?_
  exact .bind (a := Action.writeHeight (p.last + 1)) (.perform trivial) fun _ => .pure _

theorem scanBlocks_steps (s : Scanner) (ctx : Context) (c : Connection) (left : Nat) (p : Progress) :
    Only (Op.OfBlocks s) (s.scanBlocks ctx c left p) := by
  induction left generalizing p with
  | zero => exact .pure _
  | succ left ih =>
    refine .bind (.program (.perform trivial)) fun ended => .ite (.pure _) ?_
    refine .bind (scanNext_steps s c p) fun q => ?_
    dsimp only
    split
    · rename_i hpause
      exact .bind (.program (.perform ⟨rfl, hpause.1⟩)) fun ended => .ite (.pure _) (ih q)
    · exact ih q

theorem tickOver_steps (s : Scanner) (ctx : Context) (c : Connection) : Only (Op.OfBlocks s) (s.tickOver ctx c) := by
  refine .bind (.ask trivial) fun highest => .bind (a := Action.readHeight) (.perform trivial) fun height => ?_
  refine .ite (.pure _) (.bind (scanBlocks_steps s ctx c _ _) fun p => ?_)
  exact .ite (.pure _) (.pure _)

theorem tickOver_aside (s : Scanner) (ctx : Context) (c : Connection) : Only Op.Aside (s.tickOver ctx c) := by
  refine Program.Only.imp (tickOver_steps s ctx c) fun op hop => ?_
  cases op with
  | take | isClosed | dial | put _ | destroy _ | markClosed | drain => exact absurd hop id
  | _ => exact trivial

end Bodies

/-! ## Laws about the pool -/

/-- A law that has nothing to say of the steps that are none of the pool's. -/
structure Law.Lenient {κ : Type} (law : Law κ) : Prop where
  allows : ∀ k op, op.Aside → law.allows k op
  leads : ∀ k op r k', op.Aside → law.leads k op r k' → k' = k

/-- Under such a law a connection is taken, held, and given back, and all is as it was before. -/
structure Law.Leases {κ : Type} (law : Law κ) (free : κ) (held : Connection → κ) : Prop extends law.Lenient where
  acquire : Lease.acquire.run.Obeys law (fun | .ok c => (· = held c) | .error _ => (· = free)) free
  giveBack : ∀ c, (Lease.giveBack c).Obeys law (fun _ => (· = free)) (held c)

section Laws
variable {κ α β : Type} {law : Law κ} {free k : κ} {held : Connection → κ}

/-- A program that leaves the pool alone obeys the law, and leaves its state. -/
theorem Program.Only.lenient {p : Program α} (hp : p.Only Op.Aside) (hlaw : law.Lenient) :
    p.Obeys law (fun _ => (· = k)) k := by
  refine hp.keeps ?_ rfl
  rintro op hop _ rfl
  exact ⟨hlaw.allows _ op hop, fun r k' => hlaw.leads _ op r k' hop⟩

/-- The law is obeyed, and in the end no connection is held. -/
def Program.Returns (law : Law κ) (free : κ) (p : Program α) : Prop := p.Obeys law (fun _ => (· = free)) free

namespace Program.Returns

theorem bind {p : Program α} {f : α → Program β} (hp : p.Returns law free) (hf : ∀ v, (f v).Returns law free) :
    (p >>= f).Returns law free := by
  refine Obeys.bind (hp.mono fun v k hk => ?_)
  rw [hk]
  exact hf v

theorem action {a : Action α} {f : α → Action β} (ha : a.run.Returns law free)
    (hf : ∀ v, (f v).run.Returns law free) : (a >>= f).run.Returns law free := by
  refine Obeys.action (ha.mono fun r k hk => ?_)
  rw [hk]
  cases r with
  | ok v => exact hf v
  | error e => exact rfl

theorem except {r : Except ClientError α} {f : α → Action β} (hf : ∀ v, (f v).run.Returns law free) :
    ((liftM r : Action α) >>= f).run.Returns law free := by
  have hr : (liftM r : Action α).run.Returns law free := rfl
  exact hr.action hf

theorem ite {c : Prop} [Decidable c] {a b : Action α} (ha : a.run.Returns law free) (hb : b.run.Returns law free) :
    (if c then a else b).run.Returns law free := by
  split
  · exact ha
  · exact hb

theorem aside {p : Program α} (hp : p.Only Op.Aside) (hlaw : law.Lenient) : p.Returns law free := hp.lenient hlaw

end Program.Returns

namespace Law.Leases
variable (hlaw : law.Leases free held)
include hlaw

/-- A connection is held for the time of a program that leaves the pool alone. -/
theorem withConnection {body : Connection → Action α} (hbody : ∀ c, Action.Only Op.Aside (body c)) :
    (Lease.withConnection body).run.Returns law free := by
  refine Program.Obeys.bind (hlaw.acquire.mono fun r k hk => ?_)
  cases r with
  | error e => exact hk
  | ok c =>
    have hheld : k = held c := hk
    subst hheld
    refine .bind ((Program.Only.lenient (hbody c) hlaw.toLenient).mono fun r k hk => ?_)
    rw [hk]
    exact .bind ((hlaw.giveBack c).mono fun _ _ hk => hk)

theorem tick (s : Scanner) (ctx : Context) : (s.tick ctx).run.Returns law free := by
  have hlock : (Program.perform (.lock s.lock)).Returns law free := .aside (.perform trivial) hlaw.toLenient
  have hunlock : (Program.perform (.unlock s.lock)).Returns law free := .aside (.perform trivial) hlaw.toLenient
  refine hlock.bind fun _ => (hlaw.withConnection (tickOver_aside s ctx)).bind fun r => ?_
  exact hunlock.bind fun _ => rfl

/-- Each tick of a scan holds a connection of its own. -/
theorem poll (s : Scanner) (ctx : Context) (period polls due : Nat) : (s.poll ctx period polls due).Returns law free := by
  have hone (op : Op) (hop : op.Aside) : (Program.perform op).Returns law free := .aside (.perform hop) hlaw.toLenient
  induction polls generalizing due with
  | zero => exact rfl
  | succ polls ih =>
    refine (hone .time trivial).bind fun now => (hone (.pause ctx _) trivial).bind fun ended => ?_
    cases ended with
    | true => exact rfl
    | false =>
      refine (hone .time trivial).bind fun now => (hlaw.tick s ctx).bind fun _ => ?_
      exact ih _

theorem scan (s : Scanner) (ctx : Context) (period polls : Nat) : (s.run ctx period polls).Returns law free := by
  have htime : (Program.perform .time).Returns law free := .aside (.perform trivial) hlaw.toLenient
  unfold Scanner.run
  split
  · exact rfl
  · exact htime.bind fun now => hlaw.poll s ctx period polls now

end Law.Leases
end Laws

/-! ## Calls -/

/-- The calls of the client: those that are given texts, the height of the chain, and ticks and scans. -/
inductive FacadeCall where
  | given (call : ClientCall)
  | blockNumber
  | tick (scanner : Scanner) (ctx : Context)
  | scan (scanner : Scanner) (ctx : Context) (period polls : Nat)
  | startScan (lock : Nat) (ctx : Context) (start period : Nat) (handler : Handler) (polls : Nat)

namespace FacadeCall

/-- A call without what it answers. -/
def program (config : Config) : FacadeCall → Program Unit
  | .given call => do let _ ← (call.action config).run
  | .blockNumber => do let _ ← Client.blockNumber.run
  | .tick scanner ctx => do let _ ← (scanner.tick ctx).run
  | .scan scanner ctx period polls => do let _ ← scanner.run ctx period polls
  | .startScan lock ctx start period handler polls => do
    let _ ← (Client.startScan config lock ctx start period handler polls).run

end FacadeCall

section Calls
variable {κ : Type} {law : Law κ} {free : κ} {held : Connection → κ} (hlaw : law.Leases free held)
include hlaw

theorem send_returns (config : Config) (ctx : Context) (request : SendRequest) :
    (Client.send config ctx request).run.Returns law free := by
  refine .except fun checked => hlaw.withConnection fun c => ?_
  refine .bind (submit_aside config c _ _ _) fun hash => ?_
  exact .bind (poll_aside _ ctx c hash _ _) fun _ => .pure _

theorem submit_returns (config : Config) (request : SendRequest) :
    (Client.submit config request).run.Returns law free :=
  .except fun _ => hlaw.withConnection fun c => submit_aside config c _ _ _

theorem ClientCall.returns (config : Config) (call : ClientCall) : (call.action config).run.Returns law free := by
  cases call with
  | balance address => exact .except fun _ => hlaw.withConnection fun c => .bind (.ask trivial) fun _ => .pure _
  | pendingNonce address => exact .except fun _ => hlaw.withConnection fun c => .ask trivial
  | tokenBalance address contract =>
    refine .except fun owner => .except fun contract => hlaw.withConnection fun c => ?_
    exact .bind (balanceOf_aside c contract owner) fun _ => .bind (decimals_aside c contract) fun _ => .pure _
  | tokenSymbol contract =>
    exact .except fun _ => hlaw.withConnection fun c => .bind (.ask trivial) fun _ => .except _
  | isContract address => exact .except fun _ => hlaw.withConnection fun c => .bind (.ask trivial) fun _ => .pure _
  | transaction hash | receipt hash | block hash => exact .except fun _ => hlaw.withConnection fun c => .ask trivial
  | send ctx request => exact send_returns hlaw config ctx request
  | sendNative ctx key payee amount => exact send_returns hlaw config ctx _
  | sendToken ctx key payee amount contract => exact send_returns hlaw config ctx _
  | sendTokenGuarded ctx key payee amount contract nonce => exact send_returns hlaw config ctx _
  | sendCall ctx key contract data => exact send_returns hlaw config ctx _
  | submit request => exact submit_returns hlaw config request
  | submitNative key payee amount nonce => exact submit_returns hlaw config _
  | submitToken key payee amount contract nonce => exact submit_returns hlaw config _
  | sendRaw ctx text =>
    refine .except fun decoded => hlaw.withConnection fun c => .bind (.ask trivial) fun hash => ?_
    exact .bind (poll_aside _ ctx c hash _ _) fun _ => .pure _
  | submitRaw text => exact .except fun _ => hlaw.withConnection fun c => .bind (.ask trivial) fun _ => .pure _

/-- Every call holds a connection only for a time, whatever its steps are answered. -/
theorem FacadeCall.obeys (config : Config) (call : FacadeCall) : (call.program config).Returns law free := by
  cases call with
  | given call => exact (call.returns hlaw config).bind fun _ => rfl
  | blockNumber =>
    have hheight : Client.blockNumber.run.Returns law free := hlaw.withConnection fun c => .ask trivial
    exact hheight.bind fun _ => rfl
  | tick scanner ctx => exact (hlaw.tick scanner ctx).bind fun _ => rfl
  | scan scanner ctx period polls => exact (hlaw.scan scanner ctx period polls).bind fun _ => rfl
  | startScan lock ctx start period handler polls =>
    have hopen : (Action.openStore config.checkpointDir).run.Returns law free :=
      .aside (.perform trivial) hlaw.toLenient
    refine .bind (.ite rfl (hopen.action fun _ => .except fun s => ?_)) fun _ => rfl
    exact (hlaw.scan s ctx period polls).bind fun _ => rfl

end Calls
end EvmClient
