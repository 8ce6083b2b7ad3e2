import EvmClient.Proofs.TransferDecision

/-
The check of the funds over the natural numbers.

   Gas cost and amount are multiplied and added in 256 bits, where a result that is too great becomes the greatest
   value. A balance is never greater than that value, so the comparisons come out as if nothing had been cut.

   1. `le_satMul_iff`, `le_satAdd_iff` — a word compared with a product or a sum that may have been cut.
   2. `native_funded` — what a native transfer asks and hands over, at any node.
   3. `funds_check_exact` — the check is exact, what is handed over is paid for, and what is paid for passes. -/
namespace EvmClient

/-! ## Words and natural numbers -/

namespace Word256

theorem toNat_lt_size (a : Word256) : a.toNat < size := a.isLt

theorem toNat_satMul (a b : Word256) : (satMul a b).toNat = min (a.toNat * b.toNat) (size - 1) := by
  unfold satMul
  split
  · rename_i hfits
    have hproduct : (a * b).toNat = a.toNat * b.toNat := by
      rw [BitVec.toNat_mul]
      exact Nat.mod_eq_of_lt hfits
    rw [hproduct]
    omega
  · have hgreatest : (BitVec.allOnes 256).toNat = size - 1 := by decide
    rw [hgreatest]
    omega

theorem toNat_satAdd (a b : Word256) : (satAdd a b).toNat = min (a.toNat + b.toNat) (size - 1) := by
  unfold satAdd
  split
  · rename_i hfits
    have hsum : (a + b).toNat = a.toNat + b.toNat := by
      rw [BitVec.toNat_add]
      exact Nat.mod_eq_of_lt hfits
    rw [hsum]
    omega
  · have hgreatest : (BitVec.allOnes 256).toNat = size - 1 := by decide
    rw [hgreatest]
    omega

/-- A word is not above a product that was cut if it is not above the product itself. -/
theorem le_satMul_iff (x a b : Word256) : x.toNat ≤ (satMul a b).toNat ↔ x.toNat ≤ a.toNat * b.toNat := by
  have hx := x.toNat_lt_size
  rw [toNat_satMul]
  omega

theorem le_satAdd_iff (x a b : Word256) : x.toNat ≤ (satAdd a b).toNat ↔ x.toNat ≤ a.toNat + b.toNat := by
  have hx := x.toNat_lt_size
  rw [toNat_satAdd]
  omega

/-- The same for a product and a sum in a row. -/
theorem le_satAdd_satMul_iff (x a b c : Word256) :
    x.toNat ≤ (satAdd (satMul a b) c).toNat ↔ x.toNat ≤ a.toNat * b.toNat + c.toNat := by
  have hx := x.toNat_lt_size
  rw [le_satAdd_iff, toNat_satMul]
  omega

end Word256

/-- The most that gas can cost, as a natural number. -/
def gasSpent (price : Word256) (limit : Word64) : Nat := price.toNat * limit.toNat

section Check
variable (balance price : Word256) (limit : Word64)

theorem le_gasCost_iff : balance.toNat ≤ (Word256.satMul price (limit.setWidth 256)).toNat ↔
    balance.toNat ≤ gasSpent price limit := by
  rw [Word256.le_satMul_iff, BitVec.toNat_setWidth_of_le (by decide)]
  rfl

theorem le_gasCostPlus_iff (a : Word256) :
    balance.toNat ≤ (Word256.satAdd (Word256.satMul price (limit.setWidth 256)) a).toNat ↔
      balance.toNat ≤ gasSpent price limit + a.toNat := by
  rw [Word256.le_satAdd_satMul_iff, BitVec.toNat_setWidth_of_le (by decide)]
  rfl

/-- The check over the natural numbers comes out in one of three ways. -/
theorem checkFunds_cases (amount? : Option Word256) :
    let cost := Word256.satMul price (limit.setWidth 256)
    let verdict := checkFunds balance cost amount?
    let spent := gasSpent price limit
    (verdict = .error (.insufficientGas balance cost) ∧ balance.toNat ≤ spent) ∨
      (∃ a, amount? = some a ∧ verdict = .error (.insufficientGasPlusAmount balance cost a) ∧
        spent < balance.toNat ∧ balance.toNat ≤ spent + a.toNat) ∨
      (verdict = .ok () ∧ spent < balance.toNat ∧ ∀ a, amount? = some a → spent + a.toNat < balance.toNat) := by
  intro cost verdict spent
  by_cases hgas : balance.toNat ≤ spent
  · exact .inl ⟨if_pos ((le_gasCost_iff balance price limit).2 hgas), hgas⟩
  have hcost : ¬balance.toNat ≤ cost.toNat := fun h => hgas ((le_gasCost_iff balance price limit).1 h)
  have hspent : spent < balance.toNat := Nat.lt_of_not_le hgas
  cases amount? with
  | none => exact .inr (.inr ⟨if_neg hcost, hspent, fun a ha => by cases ha⟩)
  | some a =>
    have hverdict : verdict = if balance.toNat ≤ (Word256.satAdd cost a).toNat then
        .error (.insufficientGasPlusAmount balance cost a) else .ok () := if_neg hcost
    by_cases hsum : balance.toNat ≤ spent + a.toNat
    · rw [if_pos ((le_gasCostPlus_iff balance price limit a).2 hsum)] at hverdict
      exact .inr (.inl ⟨a, rfl, hverdict, hspent, hsum⟩)
    · rw [if_neg fun h => hsum ((le_gasCostPlus_iff balance price limit a).1 h)] at hverdict
      refine .inr (.inr ⟨hverdict, hspent, fun a' ha' => ?_⟩)
      cases ha'
      exact Nat.lt_of_not_le hsum

theorem insufficientGas_iff (amount? : Option Word256) :
    let cost := Word256.satMul price (limit.setWidth 256)
    checkFunds balance cost amount? = .error (.insufficientGas balance cost) ↔ balance.toNat ≤ gasSpent price limit := by
  intro cost
  constructor
  · intro h
    rcases checkFunds_cases balance price limit amount? with ⟨-, hle⟩ | ⟨a, -, hv, -, -⟩ | ⟨hv, -, -⟩
    · exact hle
    · cases hv.symm.trans h
    · cases hv.symm.trans h
  · intro h
    exact if_pos ((le_gasCost_iff balance price limit).2 h)

theorem insufficientGasPlusAmount_iff (amount? : Option Word256) (a : Word256) :
    let cost := Word256.satMul price (limit.setWidth 256)
    checkFunds balance cost amount? = .error (.insufficientGasPlusAmount balance cost a) ↔
      amount? = some a ∧ gasSpent price limit < balance.toNat ∧ balance.toNat ≤ gasSpent price limit + a.toNat := by
  intro cost
  rcases checkFunds_cases balance price limit amount? with ⟨hv, hle⟩ | ⟨a', ha', hv, hlt, hle⟩ | ⟨hv, -, hfits⟩
  · constructor
    · intro h
      cases hv.symm.trans h
    · rintro ⟨-, hlt, -⟩
      exact absurd hle (Nat.not_le_of_lt hlt)
  · constructor
    · intro h
      cases hv.symm.trans h
      exact ⟨ha', hlt, hle⟩
    · rintro ⟨ha, -⟩
      cases ha'.symm.trans ha
      exact hv
  · constructor
    · intro h
      cases hv.symm.trans h
    · rintro ⟨ha, -, hle⟩
      exact absurd hle (Nat.not_le_of_lt (hfits a ha))

theorem checkFunds_ok_iff (amount? : Option Word256) :
    let cost := Word256.satMul price (limit.setWidth 256)
    checkFunds balance cost amount? = .ok () ↔ gasSpent price limit < balance.toNat ∧
      ∀ a, amount? = some a → gasSpent price limit + a.toNat < balance.toNat := by
  intro cost
  rcases checkFunds_cases balance price limit amount? with ⟨hv, hle⟩ | ⟨a, ha, hv, -, hle⟩ | ⟨hv, hfits⟩
  · constructor
    · intro h
      cases hv.symm.trans h
    · rintro ⟨hlt, -⟩
      exact absurd hle (Nat.not_le_of_lt hlt)
  · constructor
    · intro h
      cases hv.symm.trans h
    · rintro ⟨-, hfits⟩
      exact absurd hle (Nat.not_le_of_lt (hfits a ha))
  · exact ⟨fun _ => hfits, fun _ => hv⟩

end Check

/-! ## Native transfers -/

/-- Whether an error complains of the funds. -/
def ClientError.IsFunds : ClientError → Prop
  | .insufficientGas _ _ | .insufficientGasPlusAmount _ _ _ => True
  | _ => False

/-- Complaints of the funds are the node's own words. -/
def Blameless {α : Type} (r : Except ClientError α) (told : List Exchange) : Prop :=
  ∀ e, r = .error e → e.IsFunds → ∃ query, (⟨query, .error e⟩ : Exchange) ∈ told

/-- What is asked for are nonces. -/
def AsksNonces (told : List Exchange) : Prop := ∀ x ∈ told, ∃ owner, x.1 = .pendingNonce owner

/-- The law of who asks over a connection, whatever is answered. -/
abbrev anyLaw (c : Connection) : Law (List Exchange) := askLaw c fun _ _ _ => True

/-- The action asks for nonces, and does not complain of the funds in its own words. -/
def Action.AsksOnlyNonces {α : Type} (c : Connection) (a : Action α) : Prop :=
  ∀ told, a.run.Obeys (anyLaw c) (fun r told' => ∃ more, told' = told ++ more ∧ AsksNonces more ∧ Blameless r more) told

/-- What a native transfer asked and handed over: it is paid for by the balance that was told, and what is paid for is
not refused for the funds. -/
structure Funded (config : Config) (amount : DecimalAmount) (sender : Address) (r : Except ClientError Hash)
    (told : List Exchange) : Prop where
  paid : ∀ raw answer, (raw, answer) ∈ handedOver told → ∃ tx balance, Envelope.ofRaw? raw = .ok (.legacy tx) ∧
    (⟨.balance sender, .ok balance⟩ : Exchange) ∈ told ∧
    gasSpent tx.draft.gasPrice tx.draft.gasLimit + tx.draft.value.toNat < balance.toNat
  refused : ∀ e, r = .error e → e.IsFunds → (∀ query, (⟨query, .error e⟩ : Exchange) ∉ told) → ∀ balance price,
    (⟨.balance sender, .ok balance⟩ : Exchange) ∈ told → (⟨.gasPrice, .ok price⟩ : Exchange) ∈ told →
    balance.toNat ≤ gasSpent price config.nativeGasLimit + (amount.units config.nativeDecimals).toNat

section Native
variable {config : Config} {amount : DecimalAmount} {sender : Address} {told : List Exchange} {c : Connection}

theorem mem_asked {x y z : Exchange} : z ∈ told ++ [x] ++ [y] ↔ z ∈ told ∨ z = x ∨ z = y := by
  rw [List.mem_append, List.mem_append, List.mem_singleton, List.mem_singleton, or_assoc]

theorem AsksNonces.handedOver (h : AsksNonces told) : handedOver told = [] := by
  refine List.filterMap_eq_nil_iff.2 fun x hx => ?_
  obtain ⟨query, answer⟩ := x
  obtain ⟨owner, rfl⟩ : ∃ owner, query = .pendingNonce owner := h _ hx
  rfl

namespace Blameless
variable {α β : Type} {e : ClientError}

theorem ok (v : α) : Blameless (.ok v) told := by
  intro e he
  cases he

/-- An error that is about something else. -/
theorem other (he : ¬e.IsFunds) : Blameless (.error e : Except ClientError α) told := by
  intro e' he' hfunds
  cases he'
  exact absurd hfunds he

theorem answered {query : Query} {r : Except ClientError query.Answer} (hmem : (⟨query, r⟩ : Exchange) ∈ told) :
    Blameless r told := by
  intro e he _
  rw [he] at hmem
  exact ⟨query, hmem⟩

/-- An error stays what it is where it ends a longer action, and more may have been asked. -/
theorem ends {more : List Exchange} (h : Blameless (.error e : Except ClientError α) told) (hmore : told ⊆ more) :
    Blameless (.error e : Except ClientError β) more := by
  intro e' he' hfunds
  cases he'
  obtain ⟨query, hmem⟩ := h e rfl hfunds
  exact ⟨query, hmore hmem⟩

end Blameless

theorem pendingNonce_asks : (Action.ask c (.pendingNonce sender)).AsksOnlyNonces c := by
  intro told
  refine .perform rfl ?_
  rintro r told' ⟨-, rfl⟩
  refine ⟨_, rfl, fun x hx => ?_, .answered (List.mem_singleton_self _)⟩
  obtain rfl := List.mem_singleton.1 hx
  exact ⟨sender, rfl⟩

theorem asksOnlyNonces_pure {α : Type} (v : α) : (pure v : Action α).AsksOnlyNonces c := by
  intro told
  exact ⟨[], (List.append_nil told).symm, fun x hx => (by cases hx), .ok v⟩

theorem checkGuard_asks (policy : NoncePolicy) : (Transfer.checkGuard c sender policy).AsksOnlyNonces c := by
  cases policy with
  | pending | explicit _ => exact asksOnlyNonces_pure ()
  | guarded given =>
    intro told
    refine .action ((pendingNonce_asks told).mono ?_)
    rintro r told' ⟨more, rfl, hmore, hblame⟩
    cases r with
    | error e => exact ⟨more, rfl, hmore, hblame.ends fun _ h => h⟩
    | ok pending =>
      show Program.Obeys _ _ (ite _ _ _ : Action Unit).run _
      split
      · exact ⟨more, rfl, hmore, .other id⟩
      · exact ⟨more, rfl, hmore, .ok ()⟩

theorem chooseNonce_asks (policy : NoncePolicy) : (Transfer.chooseNonce c sender policy).AsksOnlyNonces c := by
  unfold Transfer.chooseNonce
  split
  · exact asksOnlyNonces_pure _
  · exact pendingNonce_asks

theorem content_native (payee : Address) : ((Transfer.native payee amount).content config c sender).run =
    .done ((amount.baseUnits config.nativeDecimals).map fun value => ⟨value, [], config.nativeGasLimit, some value⟩) := by
  dsimp only [Transfer.content]
  cases amount.baseUnits config.nativeDecimals with
  | ok value => rfl
  | error e => rfl

theorem baseUnits_cases (amount : DecimalAmount) (decimals : Nat) :
    amount.baseUnits decimals = .ok (amount.units decimals) ∨ amount.baseUnits decimals = .error (.invalidAmount amount.text) := by
  rw [DecimalAmount.baseUnits_eq]
  unfold DecimalAmount.unitsFault?
  split
  · exact .inl rfl
  · exact .inr rfl

namespace Funded

/-- An end before anything is handed over. -/
theorem unsent {r : Except ClientError Hash} (hnone : EvmClient.handedOver told = []) (hr : Blameless r told) :
    Funded config amount sender r told where
  paid raw answer hmem := by
    rw [hnone] at hmem
    cases hmem
  refused e he hfunds hown := by
    obtain ⟨query, hmem⟩ := hr e he hfunds
    exact absurd hmem (hown query)

/-- The end in the check of the funds. -/
theorem poor (hnonces : AsksNonces told) {balance price : Word256} {e : ClientError}
    (hle : balance.toNat ≤ gasSpent price config.nativeGasLimit + (amount.units config.nativeDecimals).toNat) :
    Funded config amount sender (.error e) (told ++ [⟨.balance sender, .ok balance⟩] ++ [⟨.gasPrice, .ok price⟩]) where
  paid raw answer hmem := by
    rw [handedOver_append, handedOver_append, hnonces.handedOver] at hmem
    cases hmem
  refused _ _ _ _ balance' price' hbalance hprice := by
    have hb : balance' = balance := by
      rcases mem_asked.1 hbalance with hmem | heq | heq
      · obtain ⟨owner, howner⟩ := hnonces _ hmem
        cases howner
      · cases heq
        rfl
      · cases heq
    have hp : price' = price := by
      rcases mem_asked.1 hprice with hmem | heq | heq
      · obtain ⟨owner, howner⟩ := hnonces _ hmem
        cases howner
      · cases heq
      · cases heq
        rfl
    rw [hb, hp]
    exact hle

/-- The end in what the node answers to the submission. -/
theorem sent {signed : Legacy} {balance : Word256} {r : Except ClientError Hash} (hnone : EvmClient.handedOver told = [])
    (hbalance : (⟨.balance sender, .ok balance⟩ : Exchange) ∈ told) (hdata : signed.draft.data = [])
    (hpaid : gasSpent signed.draft.gasPrice signed.draft.gasLimit + signed.draft.value.toNat < balance.toNat) :
    Funded config amount sender r (told ++ [⟨.sendRaw signed.raw, r⟩]) where
  paid raw answer hmem := by
    rw [handedOver_append, hnone] at hmem
    cases List.mem_singleton.1 hmem
    have hlength := signed.length_raw_le
    have hsize : 262 < UInt64.size := by decide
    rw [hdata, List.length_nil, Nat.zero_add] at hlength
    have hread := Envelope.ofRaw?_legacy (Nat.lt_of_le_of_lt hlength hsize)
    exact ⟨signed, balance, hread, List.mem_append_left _ hbalance, hpaid⟩
  refused e he hfunds hown := by
    have hmem : (⟨.sendRaw signed.raw, r⟩ : Exchange) ∈ told ++ [⟨.sendRaw signed.raw, r⟩] := List.mem_append_cons_self
    rw [he] at hmem hown
    exact absurd hmem (hown _)

end Funded

variable (payee : Address) (signer : Signer) (policy : NoncePolicy)

/-- From the check of the funds on. -/
def Transfer.finish (config : Config) (c : Connection) (payee : Address) (signer : Signer) (policy : NoncePolicy)
    (balance price value : Word256) : Action Hash := do
  checkFunds balance (Word256.satMul price (config.nativeGasLimit.setWidth 256)) (some value)
  let nonce ← chooseNonce c signer.address policy
  let signed ← signer.sign ⟨nonce, price, config.nativeGasLimit, some payee, value, []⟩ config.chain
  Action.ask c (.sendRaw signed.raw)

theorem finish_funded (hnonces : AsksNonces told) (balance price : Word256) :
    (Transfer.finish config c payee signer policy balance price (amount.units config.nativeDecimals)).run.Obeys (anyLaw c)
      (Funded config amount signer.address)
      (told ++ [⟨.balance signer.address, .ok balance⟩] ++ [⟨.gasPrice, .ok price⟩]) := by
  have hnone : handedOver (told ++ [⟨.balance signer.address, .ok balance⟩] ++ [⟨.gasPrice, .ok price⟩]) = [] :=
    @handedOver_read .gasPrice trivial _ (@handedOver_read (.balance signer.address) trivial _ hnonces.handedOver _) _
  refine .action ?_
  rcases checkFunds_cases balance price config.nativeGasLimit (some (amount.units config.nativeDecimals)) with
    ⟨hv, hle⟩ | ⟨a, ha, hv, -, hle⟩ | ⟨hv, -, hpaid⟩ <;> rw [hv]
  · exact .poor hnonces (Nat.le_trans hle (Nat.le_add_right _ _))
  · cases ha
    exact .poor hnonces hle
  refine .action ((chooseNonce_asks policy _).mono ?_)
  rintro r told' ⟨more, rfl, hmore, hblame⟩
  have hnone' : handedOver (told ++ [⟨.balance signer.address, .ok balance⟩] ++ [⟨.gasPrice, .ok price⟩] ++ more) = [] := by
    rw [handedOver_append, hnone, hmore.handedOver]
    rfl
  cases r with
  | error e => exact .unsent hnone' (hblame.ends (List.subset_append_right _ _))
  | ok nonce =>
    refine .action ?_
    cases hsign : signer.sign ⟨nonce, price, config.nativeGasLimit, some payee, amount.units config.nativeDecimals, []⟩
        config.chain with
    | error e =>
      obtain ⟨reason, rfl⟩ := Signer.sign_error hsign
      exact .unsent hnone' (.other id)
    | ok signed =>
      obtain ⟨hdraft, -⟩ := Signer.affix_ok hsign
      refine .perform rfl ?_
      rintro r told' ⟨-, rfl⟩
      refine .sent hnone' (List.mem_append_left _ (mem_asked.2 (.inr (.inl rfl)))) ?_ ?_
      · rw [hdraft]
      · rw [hdraft]
        exact hpaid _ rfl

/-- The funds are checked between the two questions for nonces. -/
theorem native_funded : ((Transfer.native payee amount).submit config c signer policy).run.Obeys (anyLaw c)
    (Funded config amount signer.address) [] := by
  refine .action ((checkGuard_asks policy []).mono ?_)
  rintro r told ⟨_, rfl, hnonces, hblame⟩
  cases r with
  | error e => exact .unsent hnonces.handedOver (hblame.ends fun _ h => h)
  | ok _ =>
  refine .action ?_
  rw [content_native]
  rcases baseUnits_cases amount config.nativeDecimals with hvalue | hvalue <;> rw [hvalue]
  case inr => exact .unsent hnonces.handedOver (.other id)
  refine .action (.perform rfl ?_)
  rintro balance? told' ⟨-, rfl⟩
  have hnone := @handedOver_read (.balance signer.address) trivial _ hnonces.handedOver balance?
  cases balance? with
  | error e => exact .unsent hnone (.ends (.answered List.mem_append_cons_self) fun _ h => h)
  | ok balance =>
  refine .action (.perform rfl ?_)
  rintro price? told' ⟨-, rfl⟩
  have hnone := @handedOver_read .gasPrice trivial _ hnone price?
  cases price? with
  | error e => exact .unsent hnone (.ends (.answered List.mem_append_cons_self) fun _ h => h)
  | ok price => exact finish_funded payee signer policy hnonces balance price

end Native

/-- The check of the funds is exact over the natural numbers, whatever the balance, the price, the gas limit and the
amount are. So a native transfer that is handed to a node is paid for by the balance that the node told, and one that
is paid for by what it told is not refused for the funds, unless in the node's own words. -/
theorem funds_check_exact :
    (∀ (balance price : Word256) (limit : Word64) (amount? : Option Word256),
      let cost := Word256.satMul price (limit.setWidth 256)
      let verdict := checkFunds balance cost amount?
      let spent := price.toNat * limit.toNat
      (verdict = .error (.insufficientGas balance cost) ↔ balance.toNat ≤ spent) ∧
      (∀ a, verdict = .error (.insufficientGasPlusAmount balance cost a) ↔
        amount? = some a ∧ spent < balance.toNat ∧ balance.toNat ≤ spent + a.toNat) ∧
      (verdict = .ok () ↔ spent < balance.toNat ∧ ∀ a, amount? = some a → spent + a.toNat < balance.toNat)) ∧
    ∀ {ν σ : Type} [Node ν] [CheckpointStore σ] (config : Config) (c : Connection) (payee : Address)
      (amount : DecimalAmount) (signer : Signer) (policy : NoncePolicy) (w : World ν σ),
      let program := ((Transfer.native payee amount).submit config c signer policy).run
      Funded config amount signer.address (program.run w).1 (program.exchanges w) := by
  refine ⟨fun balance price limit amount? => ⟨?_, ?_, ?_⟩, ?_⟩
  · exact insufficientGas_iff balance price limit amount?
  · exact insufficientGasPlusAmount_iff balance price limit amount?
  · exact checkFunds_ok_iff balance price limit amount?
  · intro ν σ _ _ config c payee amount signer policy w
    exact (native_funded payee signer policy).exchanged (Node.gives_any c [] w.node)

end EvmClient
