import EvmClient.Proofs.ChainView
import EvmClient.Proofs.RequestChecks
import EvmClient.Proofs.SenderRecovery

/-
What decides on a transfer, in which order, and what goes out.

   From what the node shows, from the configuration and from the transfer alone follow the faults, in the order in
   which they are found, and the transaction that goes out if there is none. A question that fails is a fault in its
   place. A value whose question failed is taken to be zero: the fault comes before all that depends on it.

   1. `Finds.bind`, `Decides.bind` — the first fault ends an action, and nothing is handed over then.
   2. `content_finds`, `submit_decides` — the faults of a payload, and of a transfer.
   3. `first_fault_decides` — so a run ends in the first fault, or hands over the documented transaction and nothing
      else, and ends in the node's answer to it. -/
namespace EvmClient

/-! ## The transaction -/

/-- The nonce of a transaction: zero stands for the pending one. -/
def NoncePolicy.choose (pending : Word64) : NoncePolicy → Word64
  | .pending => pending
  | .explicit n | .guarded n => if n = 0 then pending else n

namespace DecimalAmount

/-- The amount in base units, if 256 bits hold it. -/
def units (a : DecimalAmount) (decimals : Nat) : Word256 := BitVec.ofNat 256 (Decimal.value (a.unitDigits decimals))

def unitsFault? (a : DecimalAmount) (decimals : Nat) : Option ClientError :=
  if Decimal.value (a.unitDigits decimals) < Word256.size then none else some (.invalidAmount a.text)

end DecimalAmount

namespace Signer

/-- What keeps a signature from its form for a chain: a value for `v` that leaves 64 bits. -/
def affixFault? (chain : Word64) : Option Ecdsa.Signature → Option ClientError
  | none => some (.signing "signature error")
  | some sig =>
    if chain.toNat * 2 + 35 + (if sig.odd then 1 else 0) < UInt64.size then none
    else some (.signing ("chain id 过大: " ++ toString chain.toNat))

def fault? (s : Signer) (tx : Draft) (chain : Word64) : Option ClientError :=
  affixFault? chain (Ecdsa.sign? s.key (tx.signingHash chain))

theorem errorOf?_affix (tx : Draft) (chain : Word64) (sig? : Option Ecdsa.Signature) :
    errorOf? (affix tx chain sig?) = affixFault? chain sig? := by
  cases sig? with
  | none => rfl
  | some sig =>
    unfold affix affixFault? ChainSignature.vFor
    dsimp only
    by_cases hfits : chain.toNat * 2 + 35 + (if sig.odd then 1 else 0) < UInt64.size
    · simp only [if_pos hfits, errorOf?]
    · simp only [if_neg hfits, errorOf?]

theorem errorOf?_sign (s : Signer) (tx : Draft) (chain : Word64) : errorOf? (s.sign tx chain) = s.fault? tx chain :=
  errorOf?_affix tx chain _

theorem affixFault?_signing {chain : Word64} {sig? : Option Ecdsa.Signature} {e : ClientError}
    (h : affixFault? chain sig? = some e) : ∃ reason, e = .signing reason := by
  cases sig? with
  | none =>
    cases h
    exact ⟨_, rfl⟩
  | some sig =>
    by_cases hfits : chain.toNat * 2 + 35 + (if sig.odd then 1 else 0) < UInt64.size
    · have hnone : affixFault? chain (some sig) = none := if_pos hfits
      rw [hnone] at h
      cases h
    · have hsome : affixFault? chain (some sig) = some (.signing ("chain id 过大: " ++ toString chain.toNat)) :=
        if_neg hfits
      exact ⟨_, Option.some.inj (h.symm.trans hsome)⟩

theorem sign_error {signer : Signer} {tx : Draft} {chain : Word64} {e : ClientError}
    (h : signer.sign tx chain = .error e) : ∃ reason, e = .signing reason := by
  have hfault : errorOf? (signer.sign tx chain) = some e := by rw [h, errorOf?]
  exact affixFault?_signing ((errorOf?_sign signer tx chain).symm.trans hfault)

/-- A signed transaction is the one that was to be signed, and names the chain. -/
theorem affix_ok {tx : Draft} {chain : Word64} {sig? : Option Ecdsa.Signature} {t : Legacy}
    (h : affix tx chain sig? = .ok t) : t.draft = tx ∧ t.chain? = some chain := by
  cases sig? with
  | none => cases h
  | some sig =>
    unfold affix at h
    dsimp only at h
    cases hv : ChainSignature.vFor sig.odd chain with
    | error e =>
      rw [hv] at h
      cases h
    | ok v =>
      rw [hv] at h
      cases h
      exact ⟨rfl, Legacy.chain?_of_v (ChainSignature.vFor_eq_ok_iff.1 hv)⟩

end Signer

namespace Transfer
variable (config : Config) (view : ChainView) (sender : Address)

/-- What a native transfer moves. -/
def nativeAmount? : Transfer → Option Word256
  | .native _ amount => some (amount.units config.nativeDecimals)
  | .token _ _ _ | .rawCall _ _ => none

/-- What a token transfer moves. -/
def tokenUnits (contract : Address) (amount : DecimalAmount) : Word256 :=
  amount.units ((view.decimals contract).toOption.getD 0)

def callData : Transfer → Bytes
  | .native _ _ => []
  | .token contract payee amount => Token.encodeTransfer payee (tokenUnits view contract amount)
  | .rawCall _ data => data

def gasLimit : Transfer → Word64
  | .native _ _ => config.nativeGasLimit
  | .token contract payee amount =>
    (view.gas sender contract (Token.encodeTransfer payee (tokenUnits view contract amount))).toOption.getD 0
  | .rawCall contract data => (view.gas sender contract data).toOption.getD 0

/-- The transaction of a transfer. -/
def draft (policy : NoncePolicy) (t : Transfer) : Draft where
  nonce := policy.choose (view.pending sender)
  gasPrice := view.gasPrice
  gasLimit := t.gasLimit config view sender
  recipient := some t.recipient
  value := (t.nativeAmount? config).getD 0
  data := t.callData view

/-! ## The faults -/

def guardFaults : NoncePolicy → List (Option ClientError)
  | .guarded given =>
    [errorOf? (view (.pendingNonce sender)),
      if given.toNat < (view.pending sender).toNat then some (.nonceTooSmall given (view.pending sender)) else none]
  | .pending | .explicit _ => []

def payloadFaults : Transfer → List (Option ClientError)
  | .native _ amount => [amount.unitsFault? config.nativeDecimals]
  | .token contract payee amount =>
    let units := tokenUnits view contract amount
    let held := (view.tokenBalance contract sender).toOption.getD 0
    [errorOf? (view.decimals contract),
      amount.unitsFault? ((view.decimals contract).toOption.getD 0),
      errorOf? (view.tokenBalance contract sender),
      if held.toNat < units.toNat then some (.insufficientTokenBalance held units) else none,
      errorOf? (view.gas sender contract (Token.encodeTransfer payee units))]
  | .rawCall contract data => [errorOf? (view.gas sender contract data)]

/-- The pending nonce is asked for if no other is named. -/
def nonceFaults (policy : NoncePolicy) : List (Option ClientError) :=
  match policy.named? with
  | some _ => []
  | none => [errorOf? (view (.pendingNonce sender))]

/-- All that can keep a transfer from being submitted, in the order in which it is found. -/
def faults (signer : Signer) (policy : NoncePolicy) (t : Transfer) : List (Option ClientError) :=
  let tx := t.draft config view signer.address policy
  guardFaults view signer.address policy ++
    t.payloadFaults config view signer.address ++
    [errorOf? (view (.balance signer.address)),
      errorOf? (view .gasPrice),
      errorOf? (checkFunds (view.balance signer.address) tx.gasCost (t.nativeAmount? config))] ++
    nonceFaults view signer.address policy ++
    [signer.fault? tx config.chain]

/-- The signed transaction, if it can be signed. -/
def signed (signer : Signer) (policy : NoncePolicy) (t : Transfer) : Legacy :=
  let tx := t.draft config view signer.address policy
  (signer.sign tx config.chain).toOption.getD (tx.signed ⟨0, 0, 0⟩)

end Transfer

/-! ## Faults in a row -/

/-- The first fault, or else the value. -/
def outcomeOf {α : Type} (faults : List (Option ClientError)) (v : α) : Except ClientError α :=
  match firstFault? faults with
  | some e => .error e
  | none => .ok v

theorem firstFault?_append (a b : List (Option ClientError)) :
    firstFault? (a ++ b) = (firstFault? a).or (firstFault? b) := List.findSome?_append

theorem firstFault?_singleton (fault : Option ClientError) : firstFault? [fault] = fault := by
  cases fault <;> rfl

theorem DecimalAmount.baseUnits_eq (a : DecimalAmount) (decimals : Nat) :
    a.baseUnits decimals = outcomeOf [a.unitsFault? decimals] (a.units decimals) := by
  unfold baseUnits unitsFault?
  dsimp only
  split <;> rfl

theorem outcomeOf_errorOf? {α : Type} (r : Except ClientError α) (v : α) : outcomeOf [errorOf? r] (r.toOption.getD v) = r := by
  cases r <;> rfl

section Actions
variable {α β : Type} {view : ChainView} {c : Connection} {faults rest : List (Option ClientError)}

/-- The first fault ends the action, or else it has the value; nothing is handed over. -/
def Action.Finds (view : ChainView) (c : Connection) (faults : List (Option ClientError)) (v : α) (a : Action α) : Prop :=
  ∀ told, handedOver told = [] → a.run.Obeys (askLaw c view.fitting)
    (fun r told' => r = outcomeOf faults v ∧ handedOver told' = []) told

/-- The first fault ends the action, or else the raw transaction is handed over and the answer to it is the end. -/
def Action.Decides (view : ChainView) (c : Connection) (faults : List (Option ClientError)) (raw : Bytes)
    (a : Action Hash) : Prop :=
  ∀ told, handedOver told = [] → a.run.Obeys (askLaw c view.fitting) (fun r told' =>
    match firstFault? faults with
    | some e => r = .error e ∧ handedOver told' = []
    | none => handedOver told' = [(raw, r)]) told

namespace Action.Finds

theorem pure (v : α) : Finds view c [] v (Pure.pure v) := fun _ hnone => ⟨rfl, hnone⟩

theorem bind {a : Action α} {f : α → Action β} {v : α} {u : β} (ha : Finds view c faults v a)
    (hf : Finds view c rest u (f v)) : Finds view c (faults ++ rest) u (a >>= f) := by
  intro told hnone
  refine .action ((ha told hnone).mono ?_)
  rintro r told' ⟨rfl, hnone'⟩
  unfold outcomeOf
  rw [firstFault?_append]
  cases firstFault? faults with
  | some e => exact ⟨rfl, hnone'⟩
  | none => exact hf told' hnone'

theorem except (r : Except ClientError α) (v : α) : Finds view c [errorOf? r] (r.toOption.getD v) (liftM r) :=
  fun _ hnone => ⟨(outcomeOf_errorOf? r v).symm, hnone⟩

/-- What is found out is compared, and that may be a fault. -/
theorem guard {bad : Prop} [Decidable bad] {e : ClientError} {a : Action α} {v : α} (ha : Finds view c rest v a) :
    Finds view c ((if bad then some e else none) :: rest) v (if bad then throw e else a) := by
  intro told hnone
  split
  · exact ⟨rfl, hnone⟩
  · exact ha told hnone

theorem ask (query : Query) (hquery : query.Reads) (v : query.Answer) :
    Finds view c [errorOf? (view query)] ((view query).toOption.getD v) (Action.ask c query) := by
  intro told hnone
  refine .perform rfl ?_
  rintro r told' ⟨hfits, rfl⟩
  rw [outcomeOf_errorOf?]
  exact ⟨hfits hnone hquery, handedOver_read hquery hnone r⟩

/-- An answer that has to be decoded. -/
theorem decoded (query : Query) (hquery : query.Reads) (decode : query.Answer → Except ClientError α) (v : α) :
    Finds view c [errorOf? (view query >>= decode)] ((view query >>= decode).toOption.getD v)
      (Action.ask c query >>= fun answer => liftM (decode answer)) := by
  intro told hnone
  refine .action (.perform rfl ?_)
  rintro r told' ⟨hfits, rfl⟩
  have hnone' := handedOver_read hquery hnone r
  rw [outcomeOf_errorOf?, ← hfits hnone hquery]
  cases r with
  | ok answer => exact ⟨rfl, hnone'⟩
  | error e => exact ⟨rfl, hnone'⟩

theorem units (amount : DecimalAmount) (decimals : Nat) :
    Finds view c [amount.unitsFault? decimals] (amount.units decimals) (liftM (amount.baseUnits decimals)) :=
  fun _ hnone => ⟨amount.baseUnits_eq decimals, hnone⟩

end Action.Finds

namespace Action.Decides

theorem bind {a : Action α} {f : α → Action Hash} {v : α} {raw : Bytes} (ha : Finds view c faults v a)
    (hf : Decides view c rest raw (f v)) : Decides view c (faults ++ rest) raw (a >>= f) := by
  intro told hnone
  refine .action ((ha told hnone).mono ?_)
  rintro r told' ⟨rfl, hnone'⟩
  rw [firstFault?_append]
  unfold outcomeOf
  cases firstFault? faults with
  | some e => exact ⟨rfl, hnone'⟩
  | none => exact hf told' hnone'

theorem next {a : Action α} {f : α → Action Hash} {v : α} {raw : Bytes} {fault : Option ClientError}
    (ha : Finds view c [fault] v a) (hf : Decides view c rest raw (f v)) :
    Decides view c (fault :: rest) raw (a >>= f) := bind ha hf

theorem sendRaw (raw : Bytes) : Decides view c [] raw (Action.ask c (.sendRaw raw)) := by
  intro told hnone
  refine .perform rfl ?_
  rintro r told' ⟨-, rfl⟩
  show handedOver (told ++ _) = _
  rw [handedOver_append, hnone]
  rfl

end Action.Decides

/-! ## Faults of a transfer -/

open EvmClient.Action

variable (config : Config) (view : ChainView) (c : Connection) (sender : Address)

theorem checkGuard_finds (policy : NoncePolicy) :
    Finds view c (Transfer.guardFaults view sender policy) () (Transfer.checkGuard c sender policy) := by
  cases policy with
  | pending | explicit _ => exact .pure ()
  | guarded given => exact .bind (.ask (.pendingNonce sender) trivial 0) (.guard (.pure ()))

theorem chooseNonce_finds (policy : NoncePolicy) : Finds view c (Transfer.nonceFaults view sender policy)
    (policy.choose (view.pending sender)) (Transfer.chooseNonce c sender policy) := by
  cases policy with
  | pending => exact .ask (.pendingNonce sender) trivial 0
  | explicit n | guarded n =>
    unfold Transfer.nonceFaults Transfer.chooseNonce NoncePolicy.named? NoncePolicy.choose
    by_cases hzero : n = 0
    · simp only [if_pos hzero]
      exact .ask (.pendingNonce sender) trivial 0
    · simp only [if_neg hzero]
      exact .pure n

/-- What a transaction carries. -/
theorem content_finds (t : Transfer) : Finds view c (t.payloadFaults config view sender)
    ⟨(t.nativeAmount? config).getD 0, t.callData view, t.gasLimit config view sender, t.nativeAmount? config⟩
    (t.content config c sender) := by
  have hgas (contract : Address) (data : Bytes) :
      Finds view c [errorOf? (view.gas sender contract data)] ((view.gas sender contract data).toOption.getD 0)
        (Transfer.estimate c sender contract data) := .ask (.estimateGas _) trivial 0
  cases t with
  | native payee amount => exact .bind (.units amount _) (.pure _)
  | rawCall contract data => exact .bind (hgas contract data) (.pure _)
  | token contract payee amount =>
    have hdecimals : Finds view c [errorOf? (view.decimals contract)] ((view.decimals contract).toOption.getD 0)
        (Token.decimals c contract) := .decoded (.call _) trivial Token.decodeDecimals 0
    have hbalance : Finds view c [errorOf? (view.tokenBalance contract sender)]
        ((view.tokenBalance contract sender).toOption.getD 0) (Token.balanceOf c contract sender) :=
      .decoded (.call _) trivial Token.decodeBalanceOf 0
    refine hdecimals.bind (.bind (.units amount _) (hbalance.bind (.guard ?_)))
    exact .bind (hgas contract _) (.pure _)

theorem submit_decides (signer : Signer) (policy : NoncePolicy) (t : Transfer) :
    Decides view c (t.faults config view signer policy) (t.signed config view signer policy).raw
      (t.submit config c signer policy) := by
  unfold Transfer.faults
  simp only [List.append_assoc, List.cons_append, List.nil_append]
  refine .bind (checkGuard_finds view c signer.address policy) ?_
  refine .bind (content_finds config view c signer.address t) ?_
  refine .next (.ask (.balance signer.address) trivial 0) (.next (.ask .gasPrice trivial 0) ?_)
  refine .next (.except (checkFunds _ _ _) ()) (.bind (chooseNonce_finds view c signer.address policy) ?_)
  rw [← Signer.errorOf?_sign]
  exact .next (.except (signer.sign _ _) _) (.sendRaw _)

/-- What goes out is short enough to be read again, if the data of a raw call is not longer than a vector can be. -/
theorem length_callData_lt {t : Transfer} (h : ∀ contract data, t = .rawCall contract data → data.length < UInt64.size / 2) :
    (t.callData view).length < UInt64.size / 2 := by
  cases t with
  | native payee amount =>
    show 0 < UInt64.size / 2
    decide
  | rawCall contract data => exact h contract data rfl
  | token contract payee amount =>
    have hword : (Token.addressWord payee).length = 32 := by
      rw [Token.addressWord, List.length_append, List.length_replicate, payee.length_eq]
    have hlength : (Transfer.callData view (.token contract payee amount)).length = 68 := by
      simp [Transfer.callData, Token.encodeTransfer, hword, Token.numberWord, Token.transferSelector]
    rw [hlength]
    decide

theorem signed_ok {signer : Signer} {policy : NoncePolicy} {t : Transfer}
    (hnone : firstFault? (t.faults config view signer policy) = none) :
    let tx := t.draft config view signer.address policy
    let signed := t.signed config view signer policy
    signer.sign tx config.chain = .ok signed ∧ signed.draft = tx ∧ signed.chain? = some config.chain := by
  intro tx signed
  have hfault : signer.fault? tx config.chain = none := by
    unfold Transfer.faults at hnone
    rw [firstFault?_append, Option.or_eq_none_iff] at hnone
    rw [← hnone.2, firstFault?_singleton]
  have hsign : signer.sign tx config.chain = .ok signed := by
    rw [← Signer.errorOf?_sign] at hfault
    show _ = Except.ok ((signer.sign tx config.chain).toOption.getD _)
    cases hr : signer.sign tx config.chain with
    | ok t => rfl
    | error e =>
      rw [hr] at hfault
      cases hfault
  exact ⟨hsign, Signer.affix_ok hsign⟩

end Actions

/-- What was handed over was answered by the node. -/
theorem handedOver_answered {ν σ α : Type} [Node ν] [CheckpointStore σ] {p : Program α} {w : World ν σ} {raw : Bytes}
    {r : Except ClientError Hash} (h : (raw, r) ∈ handedOver (p.exchanges w)) :
    ∃ (c : Connection) (n : ν), r = (Node.ask (.sendRaw raw) c n).1 := by
  obtain ⟨⟨query, answer⟩, hmem, hx⟩ := List.mem_filterMap.1 h
  cases query with
  | sendRaw raw' =>
    cases hx
    exact Program.answered hmem
  | _ => cases hx

/-- A transfer over a connection to a node that shows a view ends in the first of its faults, and nothing is handed
over then. If there is none, the node is handed one raw transaction and no more, and what it answers is the end; if
it refuses that is an error of the submission. The raw transaction is read as a legacy transaction with the
documented fields, signed by the signer for the configured chain. -/
theorem first_fault_decides {ν σ : Type} [Node ν] [RefusingNode ν] [CheckpointStore σ] (config : Config) (view : ChainView)
    (c : Connection) (t : Transfer) (signer : Signer) (policy : NoncePolicy) {w : World ν σ}
    (hview : Node.Gives c view.fitting [] w.node)
    (hdata : ∀ contract data, t = .rawCall contract data → data.length < UInt64.size / 2) :
    let program := (t.submit config c signer policy).run
    let r := (program.run w).1
    let sent := handedOver (program.exchanges w)
    match firstFault? (t.faults config view signer policy) with
    | some e => r = .error e ∧ sent = []
    | none => ∃ tx : Legacy, sent = [(tx.raw, r)] ∧ (∀ e, r = .error e → ∃ cause, e = .submit cause) ∧
        Envelope.ofRaw? tx.raw = .ok (.legacy tx) ∧ tx.draft = t.draft config view signer.address policy ∧
        signer.sign tx.draft config.chain = .ok tx ∧ tx.chain? = some config.chain := by
  intro program r sent
  have hrun := (submit_decides config view c signer policy t [] rfl).exchanged hview
  rw [List.nil_append] at hrun
  cases hfault : firstFault? (t.faults config view signer policy) with
  | some e =>
    rw [hfault] at hrun
    exact hrun
  | none =>
    rw [hfault] at hrun
    have hsent : sent = [((t.signed config view signer policy).raw, r)] := hrun
    obtain ⟨hsign, hdraft, hchain⟩ := signed_ok config view hfault
    refine ⟨t.signed config view signer policy, hsent, fun e he => ?_, Envelope.ofRaw?_legacy ?_, hdraft, ?_, hchain⟩
    · obtain ⟨c, n, hanswer⟩ := handedOver_answered (hsent ▸ List.mem_singleton_self _)
      exact RefusingNode.refused _ c n e (hanswer.symm.trans he)
    · have hlength := (t.signed config view signer policy).length_raw_le
      have hcallData := length_callData_lt view hdata
      have hsize : UInt64.size / 2 + 262 < UInt64.size := by decide
      rw [hdraft] at hlength
      show _ < _
      exact Nat.lt_of_le_of_lt hlength (Nat.lt_trans (Nat.add_lt_add_right hcallData 262) hsize)
    · rw [hdraft]
      exact hsign

/-- A node at which the sender has five units. -/
def poorNode : SimulatedNode := SimulatedNode.initial.setBalance Signer.third.address 5

def poorView : ChainView := fun query => (poorNode.ask query).1

/-- The gas of a raw call alone costs more. -/
theorem first_fault_decides_poor :
    let w : World SimulatedNode MemoryStore := .initial poorNode 0 .empty
    let t := Transfer.rawCall (FixedBytes.ofNat 20 7) [1, 2, 3, 4]
    let program := (t.submit .standard 0 Signer.third (.explicit 4)).run
    firstFault? (t.faults .standard poorView Signer.third (.explicit 4)) = some (.insufficientGas 5 60000000000000) ∧
      (program.run w).1 = .error (.insufficientGas 5 60000000000000) ∧ handedOver (program.exchanges w) = [] := by
  intro w t program
  have hfault : firstFault? (t.faults .standard poorView Signer.third (.explicit 4)) =
      some (.insufficientGas 5 60000000000000) := by decide +kernel
  refine ⟨hfault, ?_⟩
  have hview : Node.Gives 0 poorView.fitting [] w.node := poorNode.shows 0
  have hdata : ∀ contract data, t = .rawCall contract data → data.length < UInt64.size / 2 := by
    intro contract data h
    obtain ⟨-, rfl⟩ := Transfer.rawCall.inj h
    decide
  -- The faults are not to be evaluated once more.
  generalize poorView = view at hfault hview
  have hdecided := first_fault_decides .standard view 0 t Signer.third (.explicit 4) hview hdata
  rw [hfault] at hdecided
  exact hdecided

end EvmClient
