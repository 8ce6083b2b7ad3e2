import EvmClient.Proofs.ConfirmationWait
import EvmClient.Proofs.TransferDecision

/-
When a caller is told of what was wrong in a request.

   Some errors lie in what the caller gave: an address, a contract, a nonce, an amount, a key. They are told before
   anything happens, with one exception. Whether a native amount has a place in 256 bits is known as soon as its text
   is read, for its decimals come from the configuration; but the amount is brought to base units only after a
   connection was taken and a guarded nonce was compared with the pending one. A token's amount has to wait, since the
   token is asked for its decimals.

   1. `PlainNode` — a node does not end in such errors of its own.
   2. `Action.Avoids` — actions that do not end in them either, with rules for the monad.
   3. `Transfer.native_late` — the one that a submission ends in, and what was asked before it.
   4. `input_errors_early_but_amounts` — so all of them are told before the first step, but for amounts too great. -/
namespace EvmClient

/-! ## The errors of a caller -/

/-- The errors that lie in what the caller gave. -/
def ClientError.IsInput : ClientError → Prop
  | .invalidAddress _ | .contractAddressRequired | .nonceRequired | .invalidAmount _ | .invalidPrivateKey => True
  | _ => False

/-- A node that does not end in the errors of a caller. -/
class PlainNode (ν : Type) [Node ν] : Prop where
  dial : ∀ (n : ν) (e : ClientError), (Node.dial n).1 = .error e → ¬e.IsInput
  ask : ∀ (query : Query) (c : Connection) (n : ν) (e : ClientError), (Node.ask query c n).1 = .error e → ¬e.IsInput

theorem Query.failure_plain (query : Query) (cause : RpcError) : ¬(query.failure cause).IsInput := by
  cases query <;> exact id

/-- A node in memory fails with the error of the query, as a node at an address does. -/
theorem SimulatedNode.ask_error {query : Query} {n : SimulatedNode} {e : ClientError} (h : (n.ask query).1 = .error e) :
    ∃ cause, e = query.failure cause := by
  cases query with
  | call request =>
    have hreply : n.reply request = .error e := h
    unfold SimulatedNode.reply at hreply
    dsimp only at hreply
    split at hreply
    · cases hreply
      exact ⟨_, rfl⟩
    · split at hreply <;> cases hreply
      exact ⟨_, rfl⟩
  | sendRaw raw =>
    obtain ⟨cause, rfl⟩ := RefusingNode.refused raw 0 n e h
    exact ⟨cause, rfl⟩
  | receipt hash =>
    have hlookUp : (n.lookUpReceipt hash).1 = .error e := h
    unfold SimulatedNode.lookUpReceipt at hlookUp
    split at hlookUp
    · split at hlookUp <;> cases hlookUp
      exact ⟨_, rfl⟩
    · cases hlookUp
  | blockByHeight height =>
    have hlookUp : (n.lookUpBlock height).1 = .error e := h
    unfold SimulatedNode.lookUpBlock at hlookUp
    split at hlookUp <;> cases hlookUp
    exact ⟨_, rfl⟩
  | _ => cases h

instance : PlainNode SimulatedNode where
  dial n e h := by
    have hdial : n.dial.1 = .error e := h
    unfold SimulatedNode.dial at hdial
    split at hdial <;> cases hdial
    exact id
  ask query c n e h := by
    obtain ⟨cause, rfl⟩ := SimulatedNode.ask_error h
    exact query.failure_plain cause

instance {κ : Type} [Link κ] : PlainNode (HttpNode κ) where
  dial n e h := by
    obtain ⟨reason, rfl⟩ := HttpNode.dial_error h
    exact id
  ask query _ _ e h := by
    obtain ⟨cause, rfl⟩ := @Query.answer_error query _ _ h
    exact query.failure_plain cause

/-! ## Actions that do not end in some errors -/

def Op.asks : Op → List Query
  | .ask _ query => [query]
  | _ => []

/-- The answer is not an error of the caller. -/
def Op.AnswersPlainly : (op : Op) → op.Answer → Prop
  | .dial, r => ∀ e, r = .error e → ¬e.IsInput
  | .ask _ _, r => ∀ e, r = .error e → ¬e.IsInput
  | _, _ => True

/-- The law of a plain node; its state is what was asked. -/
def plainLaw : Law (List Query) where
  allows _ _ := True
  leads asked op r asked' := op.AnswersPlainly r ∧ asked' = asked ++ op.asks

section Runs
variable {α ν σ : Type} [Node ν] [PlainNode ν] [CheckpointStore σ]

theorem perform_plain (w : World ν σ) (op : Op) : op.AnswersPlainly (w.perform op).1 := by
  cases op with
  | dial => exact PlainNode.dial w.node
  | ask c query => exact PlainNode.ask query c w.node
  | _ => exact trivial

/-- What a run asks, in order. -/
def Program.asked (p : Program α) (w : World ν σ) : List Query := (p.exchanges w).map Sigma.fst

theorem Program.Obeys.plainly {p : Program α} {post : α → List Query → Prop} {before : List Query}
    (hp : p.Obeys plainLaw post before) (w : World ν σ) : post (p.run w).1 (before ++ p.asked w) := by
  induction p generalizing before w with
  | done a =>
    rw [asked, exchanges, List.map_nil, List.append_nil]
    exact hp
  | step op next ih =>
    have hrest := ih _ (hp.2 _ _ ⟨perform_plain w op, rfl⟩) (w.perform op).2
    have hasked : (Program.step op next).asked w =
        op.asks ++ (next (w.perform op).1).asked (w.perform op).2 := by
      rw [asked, exchanges, List.map_append]
      cases op <;> rfl
    rw [hasked, ← List.append_assoc]
    exact hrest

end Runs

/-- Whatever was asked before, the action does not end in such an error. -/
def Action.Avoids {α : Type} (faults : ClientError → Prop) (a : Action α) : Prop :=
  ∀ asked, a.run.Obeys plainLaw (fun r _ => ∀ e, r = .error e → ¬faults e) asked

namespace Action.Avoids
variable {α β : Type} {faults : ClientError → Prop}

theorem pure (v : α) : Avoids faults (Pure.pure v : Action α) := fun _ _ h => nomatch h

theorem throw {e : ClientError} (he : ¬faults e) : Avoids faults (MonadExcept.throw e : Action α) := by
  rintro asked _ ⟨⟩
  exact he

theorem except {r : Except ClientError α} (hr : ∀ e, r = .error e → ¬faults e) : Avoids faults (liftM r : Action α) :=
  fun _ => hr

theorem bind {a : Action α} {f : α → Action β} (ha : Avoids faults a) (hf : ∀ v, Avoids faults (f v)) :
    Avoids faults (a >>= f) := by
  refine fun asked => .action ((ha asked).mono fun r asked' hr => ?_)
  cases r with
  | ok v => exact hf v asked'
  | error e =>
    rintro _ ⟨⟩
    exact hr e rfl

theorem ite {c : Prop} [Decidable c] {a b : Action α} (ha : Avoids faults a) (hb : Avoids faults b) :
    Avoids faults (if c then a else b) := by
  split
  · exact ha
  · exact hb

theorem perform (op : Op) : Avoids faults (liftM (Program.perform op) : Action op.Answer) :=
  fun _ => .bind (.perform trivial fun _ _ _ _ h => nomatch h)

theorem outcome {a : Action α} (ha : Avoids faults a) : Avoids faults a.outcome :=
  fun asked => .bind ((ha asked).mono fun _ _ _ _ h => nomatch h)

variable (hfaults : ∀ e, faults e → e.IsInput)
include hfaults

theorem ask (c : Connection) (query : Query) : Avoids faults (Action.ask c query) := by
  refine fun asked => .perform trivial ?_
  rintro r _ ⟨hr, -⟩ e he hfault
  exact hr e he (hfaults e hfault)

end Action.Avoids

/-! ## Submissions -/

/-- What a guarded nonce is compared with. -/
def NoncePolicy.guardQuestions (sender : Address) : NoncePolicy → List Query
  | .guarded _ => [.pendingNonce sender]
  | .pending | .explicit _ => []

namespace Transfer
variable {faults : ClientError → Prop} (config : Config) (c : Connection) (signer : Signer) (policy : NoncePolicy)
open EvmClient.Action

/-- The guard asks its one question, and then passes or ends in an error of its own. -/
theorem checkGuard_asks (sender : Address) (asked : List Query) :
    (checkGuard c sender policy).run.Obeys plainLaw
      (fun r asked' => asked' = asked ++ policy.guardQuestions sender ∧ ∀ e, r = .error e → ¬e.IsInput) asked := by
  cases policy with
  | guarded given =>
    refine .action (.perform trivial ?_)
    rintro r _ ⟨hr, rfl⟩
    cases r with
    | error e =>
      refine ⟨rfl, ?_⟩
      rintro _ ⟨⟩
      exact hr e rfl
    | ok pending =>
      dsimp only
      split
      · refine ⟨rfl, ?_⟩
        rintro _ ⟨⟩
        exact id
      · exact ⟨rfl, fun _ h => nomatch h⟩
  | pending | explicit _ => exact ⟨(List.append_nil asked).symm, fun _ h => nomatch h⟩

variable (hfaults : ∀ e, faults e → e.IsInput)
include hfaults

theorem checkFunds_avoids (balance gasCost : Word256) (amount : Option Word256) :
    Avoids faults (liftM (checkFunds balance gasCost amount) : Action Unit) := by
  refine .except fun e he hfault => ?_
  unfold checkFunds at he
  have hinput := hfaults e hfault
  split at he
  · cases he
    exact hinput
  · split at he
    · cases he
    · split at he <;> cases he
      exact hinput

/-- What follows the payload. -/
theorem finish_avoids (t : Transfer) (content : Content) : Avoids faults (do
    let balance ← Action.ask c (.balance signer.address)
    let price ← Action.ask c .gasPrice
    checkFunds balance (Word256.satMul price (content.gasLimit.setWidth 256)) content.nativeAmount?
    let nonce ← chooseNonce c signer.address policy
    let draft : Draft := ⟨nonce, price, content.gasLimit, some t.recipient, content.value, content.data⟩
    let signed ← signer.sign draft config.chain
    Action.ask c (.sendRaw signed.raw) : Action Hash) := by
  have hnonce : Avoids faults (chooseNonce c signer.address policy) := by
    unfold chooseNonce
    split
    · exact .pure _
    · exact .ask hfaults c _
  refine .bind (.ask hfaults c _) fun balance => .bind (.ask hfaults c _) fun price => ?_
  refine .bind (checkFunds_avoids hfaults _ _ _) fun _ => .bind hnonce fun nonce => ?_
  refine .bind (.except fun e he hfault => ?_) fun signed => .ask hfaults c _
  obtain ⟨reason, rfl⟩ := Signer.sign_error he
  exact hfaults _ hfault

theorem decimals_avoids (contract : Address) : Avoids faults (Token.decimals c contract) := by
  refine .bind (.ask hfaults c _) fun data => .except fun e he hfault => ?_
  have hinput := hfaults e hfault
  unfold Token.decodeDecimals at he
  split at he
  · split at he <;> cases he
    exact hinput
  · cases he
    exact hinput

theorem balanceOf_avoids (contract owner : Address) : Avoids faults (Token.balanceOf c contract owner) := by
  refine .bind (.ask hfaults c _) fun data => .except fun e he hfault => ?_
  have hinput := hfaults e hfault
  unfold Token.decodeBalanceOf at he
  split at he <;> cases he
  exact hinput

theorem checkGuard_avoids (sender : Address) : Avoids faults (checkGuard c sender policy) :=
  fun asked => (checkGuard_asks c policy sender asked).mono fun _ _ h e he hfault => h.2 e he (hfaults e hfault)

/-- A call that is no native transfer; where it moves a token, its amount may be too great. -/
theorem submit_avoids {t : Transfer} (ht : ∀ payee amount, t ≠ .native payee amount)
    (htoken : ∀ text, ¬faults (.invalidAmount text)) : Avoids faults (t.submit config c signer policy) := by
  refine .bind (checkGuard_avoids c policy hfaults _) fun _ =>
    .bind ?_ fun content => finish_avoids config c signer policy hfaults t content
  cases t with
  | native payee amount => exact absurd rfl (ht payee amount)
  | token contract payee amount =>
    refine .bind (decimals_avoids c hfaults contract) fun decimals => .bind (.except fun e he => ?_) fun units => ?_
    · unfold DecimalAmount.baseUnits at he
      dsimp only at he
      split at he <;> cases he
      exact htoken _
    · refine .bind (balanceOf_avoids c hfaults contract _) fun balance => .ite (.throw fun hfault => ?_) ?_
      · exact hfaults _ hfault
      · exact .bind (.ask hfaults c _) fun _ => .pure _
  | rawCall contract data => exact .bind (.ask hfaults c _) fun _ => .pure _

omit hfaults

/-- A native transfer, by the amount and by what was asked when it ends. -/
theorem native_late (payee : Address) (amount : DecimalAmount) :
    ((Transfer.native payee amount).submit config c signer policy).run.Obeys plainLaw
      (fun r asked => ∀ e, r = .error e → e.IsInput →
        Word256.size ≤ Decimal.value (amount.unitDigits config.nativeDecimals) ∧ e = .invalidAmount amount.text ∧
          asked = policy.guardQuestions signer.address) [] := by
  refine .action ((checkGuard_asks c policy signer.address []).mono ?_)
  rintro r asked ⟨hasked, hr⟩
  cases r with
  | error e =>
    rintro _ ⟨⟩ hinput
    exact absurd hinput (hr e rfl)
  | ok _ =>
    have hcontent : (Transfer.native payee amount).content config c signer.address =
        (liftM (amount.baseUnits config.nativeDecimals) >>= fun value =>
          pure ⟨value, [], config.nativeGasLimit, some value⟩ : Action Content) := rfl
    refine .action ?_
    rw [hcontent]
    cases hunits : amount.baseUnits config.nativeDecimals with
    | ok value =>
      -- The amount was the last of what the caller gave.
      refine (finish_avoids config c signer policy (fun _ h => h) (.native payee amount) _ asked).mono ?_
      exact fun _ _ h e he hinput => absurd hinput (h e he)
    | error e =>
      rintro _ ⟨⟩ -
      unfold DecimalAmount.baseUnits at hunits
      dsimp only at hunits
      split at hunits <;> cases hunits
      rename_i hgreat
      exact ⟨Nat.le_of_not_lt hgreat, rfl, hasked⟩

end Transfer

/-! ## Whole calls -/

section Calls
variable {α : Type}

theorem poll_avoids {faults : ClientError → Prop} (hfaults : ∀ e, faults e → e.IsInput) (interval : Nat) (ctx : Context)
    (c : Connection) (hash : Hash) (left attempts : Nat) :
    Action.Avoids faults (Confirmation.poll interval ctx c hash left attempts) := by
  induction left generalizing attempts with
  | zero => exact .pure _
  | succ left ih =>
    have htimeout : ¬faults (.receiptReadTimeout hash) := fun hfault => hfaults _ hfault
    refine .bind (.perform _) fun late => .ite (.throw htimeout) ?_
    refine .bind (.perform _) fun ended => .ite (.throw htimeout) ?_
    refine .bind (.outcome (.ask hfaults c _)) fun answer => ?_
    split
    · rename_i r hdecision
      refine .except fun e he => ?_
      subst he
      cases Confirmation.decision?_eq_some_iff.1 hdecision
      exact fun hfault => hfaults _ hfault
    · exact ih (attempts + 1)

/-- Where the action ends in a fault, `late` says of it what was asked before. -/
def Faulty (faults : ClientError → Prop) (late : ClientError → List Query → Prop) (r : Except ClientError α)
    (asked : List Query) : Prop := ∀ e, r = .error e → faults e → late e asked

variable {faults : ClientError → Prop} {late : ClientError → List Query → Prop}

theorem Action.Avoids.faulty {a : Action α} (ha : a.Avoids faults) (asked : List Query) :
    a.run.Obeys plainLaw (Faulty faults late) asked :=
  (ha asked).mono fun _ _ h e he hfault => absurd hfault (h e he)

/-- A step that asks nothing. -/
theorem Program.Obeys.unasked {op : Op} {post : op.Answer → List Query → Prop} {asked : List Query} (hop : op.asks = [])
    (h : ∀ r, op.AnswersPlainly r → post r asked) : (Program.perform op).Obeys plainLaw post asked := by
  refine .perform trivial ?_
  rintro r _ ⟨hr, rfl⟩
  rw [hop, List.append_nil]
  exact h r hr

theorem acquire_unasked (hfaults : ∀ e, faults e → e.IsInput) (asked : List Query) :
    Lease.acquire.run.Obeys plainLaw (fun r asked' => asked' = asked ∧ ∀ e, r = .error e → ¬faults e) asked := by
  refine .program (.unasked rfl fun idle _ => ?_)
  cases idle with
  | some c => exact ⟨rfl, fun _ h => nomatch h⟩
  | none =>
    refine .program (.unasked rfl fun closed _ => ?_)
    cases closed with
    | true =>
      refine ⟨rfl, ?_⟩
      rintro _ ⟨⟩
      exact hfaults _
    | false => exact .unasked rfl fun r hr => ⟨rfl, fun e he hfault => hr e he (hfaults e hfault)⟩

theorem giveBack_unasked (c : Connection) (asked : List Query) :
    (Lease.giveBack c).Obeys plainLaw (fun _ asked' => asked' = asked) asked := by
  refine .bind (.unasked rfl fun kept _ => ?_)
  cases kept with
  | true => exact rfl
  | false => exact .bind (.unasked rfl fun _ _ => rfl)

theorem withConnection_faulty (hfaults : ∀ e, faults e → e.IsInput) {body : Connection → Action α}
    (hbody : ∀ c, (body c).run.Obeys plainLaw (Faulty faults late) []) :
    (Lease.withConnection body).run.Obeys plainLaw (Faulty faults late) [] := by
  refine .bind ((acquire_unasked hfaults []).mono ?_)
  rintro r _ ⟨rfl, hr⟩
  cases r with
  | error e =>
    rintro _ ⟨⟩ hfault
    exact absurd hfault (hr e rfl)
  | ok c =>
    refine .bind ((hbody c).mono fun r asked h => .bind ((giveBack_unasked c asked).mono ?_))
    rintro _ _ rfl
    exact h

end Calls

/-- An error of the caller that needs no node to be told; the amount of a token does. -/
def SendRequest.IsFault (request : SendRequest) (e : ClientError) : Prop :=
  e.IsInput ∧ ((∃ text, e = .invalidAmount text) → ∃ amount, request.payload = .native amount)

/-- The request that a call sends. -/
def ClientCall.request? : ClientCall → Option SendRequest
  | .send _ request | .submit request => some request
  | .sendNative _ key payee amount => some ⟨key, payee, .native amount, .pending⟩
  | .submitNative key payee amount nonce => some ⟨key, payee, .native amount, .explicit nonce⟩
  | .sendToken _ key payee amount contract => some ⟨key, payee, .token amount (some contract), .pending⟩
  | .sendTokenGuarded _ key payee amount contract nonce =>
    some ⟨key, payee, .token amount (some contract), .guarded nonce⟩
  | .submitToken key payee amount contract nonce => some ⟨key, payee, .token amount (some contract), .explicit nonce⟩
  | .sendCall _ key contract data => some ⟨key, contract, .rawCall data, .pending⟩
  | _ => none

/-- The amount of a native transfer has no place in 256 bits, and this is told after these questions. -/
def Transfer.Overflows (config : Config) (sender : Address) (policy : NoncePolicy) (t : Transfer) (e : ClientError)
    (asked : List Query) : Prop :=
  ∃ payee amount, t = .native payee amount ∧
    Word256.size ≤ Decimal.value (amount.unitDigits config.nativeDecimals) ∧ e = .invalidAmount amount.text ∧
    asked = policy.guardQuestions sender

section Requests
variable {request : SendRequest} {t : Transfer} {signer : Signer}

theorem SendRequest.validate_native (ht : request.validate = .ok t) {amount : String}
    (hpayload : request.payload = .native amount) : ∃ payee a, t = .native payee a := by
  rw [SendRequest.validate, hpayload] at ht
  obtain ⟨payee, -, ht⟩ := bind_eq_ok_iff.1 ht
  obtain ⟨-, -, ht⟩ := bind_eq_ok_iff.1 ht
  obtain ⟨a, -, ht⟩ := bind_eq_ok_iff.1 ht
  cases ht
  exact ⟨payee, a, rfl⟩

theorem Transfer.ofRequest_validated (h : Transfer.ofRequest request = .ok (t, signer)) : request.validate = .ok t := by
  obtain ⟨t', ht', h⟩ := bind_eq_ok_iff.1 h
  obtain ⟨signer', -, h⟩ := bind_eq_ok_iff.1 h
  cases h
  exact ht'

theorem submit_faulty (config : Config) (hrequest : Transfer.ofRequest request = .ok (t, signer)) (c : Connection) :
    (t.submit config c signer request.nonce).run.Obeys plainLaw
      (Faulty request.IsFault (t.Overflows config signer.address request.nonce)) [] := by
  have hother (hnative : ∀ payee amount, t ≠ .native payee amount) (text : String) :
      ¬request.IsFault (.invalidAmount text) := by
    rintro ⟨-, hpayload⟩
    obtain ⟨amount, hpayload⟩ := hpayload ⟨text, rfl⟩
    obtain ⟨payee, a, ht⟩ := SendRequest.validate_native (Transfer.ofRequest_validated hrequest) hpayload
    exact hnative payee a ht
  have havoids (hnative : ∀ payee amount, t ≠ .native payee amount) :
      Action.Avoids request.IsFault (t.submit config c signer request.nonce) :=
    Transfer.submit_avoids config c signer request.nonce (fun _ h => h.1) hnative (hother hnative)
  cases t with
  | native payee amount =>
    refine (Transfer.native_late config c signer request.nonce payee amount).mono fun r asked h e he hfault => ?_
    exact ⟨payee, amount, rfl, h e he hfault.1⟩
  | token contract payee amount => exact (havoids fun _ _ h => nomatch h).faulty []
  | rawCall contract data => exact (havoids fun _ _ h => nomatch h).faulty []

/-- A call whose request passed its checks takes a connection and goes on with it. -/
theorem call_faulty (config : Config) {call : ClientCall} (hcall : call.request? = some request)
    (hrequest : Transfer.ofRequest request = .ok (t, signer)) :
    ∃ body : Connection → Action call.Answer, (call.action config).run = (Lease.withConnection body).run ∧
      ∀ c, (body c).run.Obeys plainLaw (Faulty request.IsFault (t.Overflows config signer.address request.nonce)) [] := by
  have honce : (Transfer.sendOnly config request).run =
      (Lease.withConnection fun c => t.submit config c signer request.nonce).run := by
    rw [Transfer.sendOnly, hrequest]
    rfl
  have hwait (ctx : Context) : (Transfer.sendAndWait config ctx request).run = (Lease.withConnection fun c => do
      let hash ← t.submit config c signer request.nonce
      return ⟨hash, ← Confirmation.wait config.confirmation ctx c hash⟩).run := by
    rw [Transfer.sendAndWait, hrequest]
    rfl
  have hwaits (ctx : Context) (c : Connection) : (do
      let hash ← t.submit config c signer request.nonce
      return ⟨hash, ← Confirmation.wait config.confirmation ctx c hash⟩ : Action TransferReceipt).run.Obeys plainLaw
        (Faulty request.IsFault (t.Overflows config signer.address request.nonce)) [] := by
    refine .action ((submit_faulty config hrequest c).mono fun r asked h => ?_)
    cases r with
    | error e =>
      rintro _ ⟨⟩
      exact h e rfl
    | ok hash => exact (Action.Avoids.bind (poll_avoids (fun _ h => h.1) _ _ _ _ _ _) fun _ => .pure _).faulty asked
  cases call with
  | send ctx _ | sendNative ctx _ _ _ | sendToken ctx _ _ _ _ | sendTokenGuarded ctx _ _ _ _ _ | sendCall ctx _ _ _ =>
    cases hcall
    exact ⟨_, hwait ctx, hwaits ctx⟩
  | submit _ | submitNative _ _ _ _ | submitToken _ _ _ _ _ =>
    cases hcall
    exact ⟨_, honce, submit_faulty config hrequest⟩
  | _ => cases hcall

/-- A call whose request fails its checks ends there. -/
theorem call_refused (config : Config) {call : ClientCall} (hcall : call.request? = some request) {e : ClientError}
    (hrequest : Transfer.ofRequest request = .error e) : (call.action config).run = .done (.error e) := by
  have honce : (Transfer.sendOnly config request).run = .done (.error e) := by
    rw [Transfer.sendOnly, hrequest]
    rfl
  have hwait (ctx : Context) : (Transfer.sendAndWait config ctx request).run = .done (.error e) := by
    rw [Transfer.sendAndWait, hrequest]
    rfl
  cases call with
  | send ctx _ | sendNative ctx _ _ _ | sendToken ctx _ _ _ _ | sendTokenGuarded ctx _ _ _ _ _ | sendCall ctx _ _ _ =>
    cases hcall
    exact hwait ctx
  | submit _ | submitNative _ _ _ _ | submitToken _ _ _ _ _ =>
    cases hcall
    exact honce
  | _ => cases hcall

end Requests

/-- What a caller did wrong is told before the first step of a call, but for a native amount that has no place in 256
bits: a call that ends in such an error, a token's amount apart, has taken no step, and the error is that of the first
check that fails; or all checks passed, and the amount is too great. Then the call has taken a connection, and has asked
for the pending nonce where it was to be guarded, and for nothing else. -/
theorem input_errors_early_but_amounts {ν σ : Type} [Node ν] [PlainNode ν] [CheckpointStore σ] {config : Config}
    {call : ClientCall} {request : SendRequest} {w : World ν σ} {e : ClientError} (hcall : call.request? = some request)
    (hend : ((call.action config).run.run w).1 = .error e) (hfault : request.IsFault e) :
    ((call.action config).run = .done (.error e) ∧ firstFault? (request.checks ++ [keyFault? request.key]) = some e) ∨
    ∃ payee amount signer next, Transfer.ofRequest request = .ok (.native payee amount, signer) ∧
      Word256.size ≤ Decimal.value (amount.unitDigits config.nativeDecimals) ∧ e = .invalidAmount amount.text ∧
      (call.action config).run = .step .take next ∧
      (call.action config).run.asked w = request.nonce.guardQuestions signer.address := by
  cases hrequest : Transfer.ofRequest request with
  | error e' =>
    have hrefused := call_refused config hcall hrequest
    rw [hrefused] at hend
    cases hend
    refine .inl ⟨hrefused, ?_⟩
    rw [← errorOf?_ofRequest, hrequest]
    rfl
  | ok checked =>
    obtain ⟨t, signer⟩ := checked
    obtain ⟨body, hbody, hfaulty⟩ := call_faulty config hcall hrequest
    have hlate := (withConnection_faulty (fun _ h => h.1) hfaulty).plainly w
    rw [← hbody] at hlate
    obtain ⟨payee, amount, rfl, hgreat, he, hasked⟩ := hlate e hend hfault
    exact .inr ⟨payee, amount, signer, _, rfl, hgreat, he, hbody, hasked⟩

/-! ## An amount that is told too late -/

def nines : String := String.ofList (List.replicate 80 '9')

/-- Eighty nines are a number, but not one of 256 bits. -/
def greatRequest : SendRequest where
  key := String.ofList (List.replicate 63 '0' ++ ['3'])
  recipient := "0x" ++ String.ofList (List.replicate 40 '1')
  payload := .native nines
  nonce := .guarded 5

def unusedWorld : World SimulatedNode MemoryStore := .initial .initial 0 .empty

/-- The request is refused after a question. -/
theorem input_errors_early_but_amounts_great :
    (ClientCall.submit greatRequest).request? = some greatRequest ∧
      ((Client.submit .standard greatRequest).run.run unusedWorld).1 = .error (.invalidAmount nines) ∧
      greatRequest.IsFault (.invalidAmount nines) ∧
      ∃ sender, (Client.submit .standard greatRequest).run.asked unusedWorld = [.pendingNonce sender] := by
  have hend : ((Client.submit .standard greatRequest).run.run unusedWorld).1 = .error (.invalidAmount nines) := by
    decide +kernel
  have hfault : greatRequest.IsFault (.invalidAmount nines) := ⟨trivial, fun _ => ⟨nines, rfl⟩⟩
  have hpassed : firstFault? (greatRequest.checks ++ [keyFault? greatRequest.key]) = none := by decide +kernel
  have hcall : (ClientCall.submit greatRequest).request? = some greatRequest := rfl
  refine ⟨hcall, hend, hfault, ?_⟩
  rcases input_errors_early_but_amounts hcall hend hfault with
    ⟨-, hfirst⟩ | ⟨-, -, signer, -, -, -, -, -, hasked⟩
  · rw [hpassed] at hfirst
    cases hfirst
  · exact ⟨signer.address, hasked⟩

/-- It is not refused before a connection is made. -/
theorem great_amount_told_after_dial :
    ((Client.submit .standard greatRequest).run.run unusedWorld).1 = .error (.invalidAmount nines) ∧
      greatRequest.IsFault (.invalidAmount nines) ∧ unusedWorld.node.dials = 0 ∧
      ((Client.submit .standard greatRequest).run.run unusedWorld).2.node.dials = 1 := by
  refine ⟨?_, ⟨trivial, fun _ => ⟨nines, rfl⟩⟩, rfl, ?_⟩
  · decide +kernel
  · decide +kernel

end EvmClient
