import EvmClient.Client
import EvmClient.Node.Simulated

/-
What is refused before anything happens.

   The texts of a call are checked before a connection is held. `ClientCall` lists the calls of the client that
   are given texts, and `checks` says of each what its texts are checked for, in order, and what error each check
   gives; a check says nothing of the others. The first check that fails decides.

   1. `errorOf?_bind` — checks in a row end in the error of the first that fails.
   2. `Refuses.check` — so does an action that begins with checks, and it takes no step then.
   3. `malformed_refused` — both for all requests and calls, whatever the world is. -/
namespace EvmClient

/-! ## Checks -/

/-- The error that something ended in. -/
def errorOf? {ε α : Type} : Except ε α → Option ε
  | .ok _ => none
  | .error e => some e

/-- The error of the first check that fails. -/
def firstFault? (checks : List (Option ClientError)) : Option ClientError := checks.findSome? id

def addressFault? (s : String) : Option ClientError :=
  if (Address.parse? s.toList).isSome then none else some (.invalidAddress s)

/-- A contract's address must be there and must not be blank; an address that is wrong is named without the
blanks around it. -/
def contractFault? : Option String → Option ClientError
  | none => some .contractAddressRequired
  | some s =>
    if Text.trim s.toList = [] then some .contractAddressRequired
    else addressFault? (String.ofList (Text.trim s.toList))

/-- A nonce that is to be guarded must not be zero. -/
def NoncePolicy.fault? : NoncePolicy → Option ClientError
  | .guarded nonce => if nonce = 0 then some .nonceRequired else none
  | .pending | .explicit _ => none

def amountFault? (s : String) : Option ClientError :=
  if (DecimalAmount.read? s.toList).isSome then none
  else some (.invalidAmount (String.ofList (Text.trim s.toList)))

def keyFault? (s : String) : Option ClientError :=
  if ((Ecdsa.PrivateKey.read? s.toList).bind Signer.ofKey?).isSome then none else some .invalidPrivateKey

namespace SendRequest

/-- The recipient of a raw call is a contract, and is checked as one. -/
def recipientFault? (r : SendRequest) : Option ClientError :=
  match r.payload with
  | .native _ | .token _ _ => addressFault? r.recipient
  | .rawCall _ => contractFault? (some r.recipient)

def tokenFault? (r : SendRequest) : Option ClientError :=
  match r.payload with
  | .token _ contract => contractFault? contract
  | .native _ | .rawCall _ => none

def sumFault? (r : SendRequest) : Option ClientError :=
  match r.payload with
  | .native amount | .token amount _ => amountFault? amount
  | .rawCall _ => none

/-- The checks of a request: the recipient, the token's contract, the nonce, the amount. -/
def checks (r : SendRequest) : List (Option ClientError) :=
  [r.recipientFault?, r.tokenFault?, r.nonce.fault?, r.sumFault?]

end SendRequest

/-! ## Calls -/

/-- A call of the client that is given texts. -/
inductive ClientCall where
  | balance (address : String)
  | pendingNonce (address : String)
  | tokenBalance (address contract : String)
  | tokenSymbol (contract : String)
  | isContract (address : String)
  | transaction (hash : String)
  | receipt (hash : String)
  | block (hash : String)
  | send (ctx : Context) (request : SendRequest)
  | submit (request : SendRequest)
  | sendNative (ctx : Context) (key payee amount : String)
  | submitNative (key payee amount : String) (nonce : Word64)
  | sendToken (ctx : Context) (key payee amount contract : String)
  | sendTokenGuarded (ctx : Context) (key payee amount contract : String) (nonce : Word64)
  | submitToken (key payee amount contract : String) (nonce : Word64)
  | sendCall (ctx : Context) (key contract : String) (data : Bytes)
  | sendRaw (ctx : Context) (text : String)
  | submitRaw (text : String)

namespace ClientCall

@[reducible] def Answer : ClientCall → Type
  | .balance _ | .tokenBalance _ _ => TokenAmount
  | .pendingNonce _ => Word64
  | .tokenSymbol _ => String
  | .isContract _ => Bool
  | .transaction _ => Option Transaction
  | .receipt _ => Option Receipt
  | .block _ => Option Block
  | .send _ _ | .sendNative _ _ _ _ | .sendToken _ _ _ _ _ | .sendTokenGuarded _ _ _ _ _ _ | .sendCall _ _ _ _ =>
    TransferReceipt
  | .submit _ | .submitNative _ _ _ _ | .submitToken _ _ _ _ _ => Hash
  | .sendRaw _ _ => TransferReceipt × Envelope
  | .submitRaw _ => Hash × Envelope

def action (config : Config) : (call : ClientCall) → Action call.Answer
  | .balance address => Client.balance config address
  | .pendingNonce address => Client.pendingNonce address
  | .tokenBalance address contract => Client.tokenBalance address contract
  | .tokenSymbol contract => Client.tokenSymbol contract
  | .isContract address => Client.isContract address
  | .transaction hash => Client.transaction hash
  | .receipt hash => Client.receipt hash
  | .block hash => Client.block hash
  | .send ctx request => Client.send config ctx request
  | .submit request => Client.submit config request
  | .sendNative ctx key payee amount => Client.sendNative config ctx key payee amount
  | .submitNative key payee amount nonce => Client.submitNative config key payee amount nonce
  | .sendToken ctx key payee amount contract => Client.sendToken config ctx key payee amount contract
  | .sendTokenGuarded ctx key payee amount contract nonce =>
    Client.sendTokenGuarded config ctx key payee amount contract nonce
  | .submitToken key payee amount contract nonce => Client.submitToken config key payee amount contract nonce
  | .sendCall ctx key contract data => Client.sendCall config ctx key contract data
  | .sendRaw ctx text => Client.sendRaw config ctx text
  | .submitRaw text => Client.submitRaw text

/-- The checks of a call, in order. The key of a request is checked behind the rest of it. -/
def checks : ClientCall → List (Option ClientError)
  | .balance address | .pendingNonce address | .isContract address => [addressFault? address]
  | .tokenBalance address contract => [addressFault? address, contractFault? (some contract)]
  | .tokenSymbol contract => [contractFault? (some contract)]
  | .transaction hash | .receipt hash | .block hash => [errorOf? (parseHash hash)]
  | .send _ request | .submit request => request.checks ++ [keyFault? request.key]
  | .sendNative _ key payee amount => [addressFault? payee, amountFault? amount, keyFault? key]
  | .submitNative key payee amount _ => [addressFault? payee, amountFault? amount, keyFault? key]
  | .sendToken _ key payee amount contract | .submitToken key payee amount contract _ =>
    [addressFault? payee, contractFault? (some contract), amountFault? amount, keyFault? key]
  | .sendTokenGuarded _ key payee amount contract nonce =>
    [addressFault? payee, contractFault? (some contract), (NoncePolicy.guarded nonce).fault?, amountFault? amount,
      keyFault? key]
  | .sendCall _ key contract _ => [contractFault? (some contract), keyFault? key]
  | .sendRaw _ text | .submitRaw text => [errorOf? (Transfer.ofRawText text)]

end ClientCall

/-! ## What a check gives -/

theorem errorOf?_address (s : String) : errorOf? (Address.parse s) = addressFault? s := by
  unfold Address.parse addressFault?
  cases Address.parse? s.toList with
  | some a => rfl
  | none => rfl

theorem errorOf?_contract (s : Option String) : errorOf? (Address.parseContract s) = contractFault? s := by
  cases s with
  | none => rfl
  | some s =>
    unfold Address.parseContract contractFault?
    dsimp only
    split
    · rfl
    · exact errorOf?_address _

theorem errorOf?_nonce (r : SendRequest) : errorOf? r.checkNonce = r.nonce.fault? := by
  unfold SendRequest.checkNonce NoncePolicy.fault?
  cases r.nonce with
  | pending => rfl
  | explicit nonce => rfl
  | guarded nonce =>
    by_cases hzero : nonce = 0
    · subst hzero
      rfl
    · have hother : NoncePolicy.guarded nonce ≠ .guarded 0 := fun h => hzero (by cases h; rfl)
      rw [if_neg hother]
      exact (if_neg hzero).symm

theorem errorOf?_amount (s : String) : errorOf? (DecimalAmount.parse s) = amountFault? s := by
  unfold DecimalAmount.parse amountFault?
  cases DecimalAmount.read? s.toList with
  | some a => rfl
  | none => rfl

theorem errorOf?_key (s : String) : errorOf? (Signer.parse s) = keyFault? s := by
  unfold Signer.parse keyFault?
  cases (Ecdsa.PrivateKey.read? s.toList).bind Signer.ofKey? with
  | some signer => rfl
  | none => rfl

/-! ## Checks in a row -/

/-- Checks in a row end in the error of the first that fails. -/
theorem errorOf?_bind {α β : Type} {r : Except ClientError α} {f : α → Except ClientError β}
    {rest : List (Option ClientError)} (h : ∀ a, errorOf? (f a) = firstFault? rest) :
    errorOf? (r >>= f) = firstFault? (errorOf? r :: rest) := by
  cases r with
  | ok a => exact h a
  | error e => rfl

/-- The last check of all. -/
theorem errorOf?_map {α β : Type} (r : Except ClientError α) (f : α → β) :
    errorOf? (r >>= fun a => pure (f a)) = firstFault? [errorOf? r] := errorOf?_bind fun _ => rfl

theorem errorOf?_validate (r : SendRequest) : errorOf? r.validate = firstFault? r.checks := by
  obtain ⟨key, recipient, payload, nonce⟩ := r
  cases payload with
  | native amount =>
    show _ = firstFault? [addressFault? recipient, none, nonce.fault?, amountFault? amount]
    rw [← errorOf?_address, ← errorOf?_amount, ← errorOf?_nonce ⟨key, recipient, .native amount, nonce⟩]
    exact errorOf?_bind fun _ => errorOf?_bind fun _ => errorOf?_map _ _
  | token amount contract =>
    show _ = firstFault? [addressFault? recipient, contractFault? contract, nonce.fault?, amountFault? amount]
    rw [← errorOf?_address, ← errorOf?_contract, ← errorOf?_amount,
      ← errorOf?_nonce ⟨key, recipient, .token amount contract, nonce⟩]
    exact errorOf?_bind fun _ => errorOf?_bind fun _ => errorOf?_bind fun _ => errorOf?_map _ _
  | rawCall data =>
    show _ = firstFault? [contractFault? (some recipient), none, nonce.fault?, none]
    rw [← errorOf?_contract, ← errorOf?_nonce ⟨key, recipient, .rawCall data, nonce⟩]
    exact errorOf?_bind fun _ => errorOf?_map _ _

/-- The checks of a transfer: those of the request, then the key. -/
theorem errorOf?_ofRequest (r : SendRequest) :
    errorOf? (Transfer.ofRequest r) = firstFault? (r.checks ++ [keyFault? r.key]) := by
  have hsplit : firstFault? (r.checks ++ [keyFault? r.key]) = firstFault? [firstFault? r.checks, keyFault? r.key] := by
    unfold firstFault?
    rw [List.findSome?_append]
    cases r.checks.findSome? id with
    | none => rfl
    | some e => rfl
  rw [hsplit, ← errorOf?_validate, ← errorOf?_key]
  exact errorOf?_bind fun _ => errorOf?_map _ _

/-! ## Actions that begin with checks -/

/-- If a check fails, the action ends in its error and takes no step. -/
def Refuses {α : Type} (a : Action α) (checks : List (Option ClientError)) : Prop :=
  ∀ e, firstFault? checks = some e → a.run = .done (.error e)

namespace Refuses
variable {α β : Type}

theorem nil (a : Action α) : Refuses a [] := fun _ h => by cases h

theorem check {r : Except ClientError α} {f : α → Action β} {rest : List (Option ClientError)}
    (h : ∀ a, Refuses (f a) rest) : Refuses (liftM r >>= f) (errorOf? r :: rest) := by
  intro e he
  cases r with
  | ok a => exact h a e he
  | error e' =>
    cases he
    rfl

/-- What is checked last of all. -/
theorem last (r : Except ClientError α) (f : α → Action β) : Refuses (liftM r >>= f) [errorOf? r] :=
  check fun a => nil (f a)

/-- Checks that are all made in one piece. -/
theorem whole {a : Action α} {checks : List (Option ClientError)} (h : Refuses a [firstFault? checks]) :
    Refuses a checks := by
  intro e he
  refine h e ?_
  rw [he]
  rfl

end Refuses

/-! ## Calls are refused -/

theorem request_refuses {β : Type} (r : SendRequest) (f : Transfer × Signer → Action β) :
    Refuses (liftM (Transfer.ofRequest r) >>= f) (r.checks ++ [keyFault? r.key]) := by
  apply Refuses.whole
  rw [← errorOf?_ofRequest]
  exact Refuses.last _ _

theorem address_refuses {β : Type} (address : String) (f : Address → Action β) :
    Refuses (liftM (Address.parse address) >>= f) [addressFault? address] := by
  rw [← errorOf?_address]
  exact Refuses.last _ _

theorem ClientCall.refuses (config : Config) (call : ClientCall) : Refuses (call.action config) call.checks := by
  cases call with
  | balance address | pendingNonce address | isContract address => exact address_refuses address _
  | tokenBalance address contract =>
    show Refuses _ [addressFault? address, contractFault? (some contract)]
    rw [← errorOf?_address, ← errorOf?_contract]
    exact .check fun _ => .last _ _
  | tokenSymbol contract =>
    show Refuses _ [contractFault? (some contract)]
    rw [← errorOf?_contract]
    exact .last _ _
  | transaction hash | receipt hash | block hash => exact .last _ _
  | send ctx request => exact request_refuses request _
  | submit request => exact request_refuses request _
  | sendNative ctx key payee amount => exact request_refuses ⟨key, payee, .native amount, .pending⟩ _
  | submitNative key payee amount nonce => exact request_refuses ⟨key, payee, .native amount, .explicit nonce⟩ _
  | sendToken ctx key payee amount contract =>
    exact request_refuses ⟨key, payee, .token amount (some contract), .pending⟩ _
  | sendTokenGuarded ctx key payee amount contract nonce =>
    exact request_refuses ⟨key, payee, .token amount (some contract), .guarded nonce⟩ _
  | submitToken key payee amount contract nonce =>
    exact request_refuses ⟨key, payee, .token amount (some contract), .explicit nonce⟩ _
  | sendCall ctx key contract data => exact request_refuses ⟨key, contract, .rawCall data, .pending⟩ _
  | sendRaw ctx text | submitRaw text => exact .last _ _

/-- A request is refused with the error of the first check that fails, in the order of its checks, and passes if
none fails. A call whose texts fail a check ends in the error of the first such check without a single step: no
connection is taken or made, and whatever the pool, the node, the store and the time are, they stay as they are. -/
theorem malformed_refused :
    (∀ r : SendRequest, errorOf? r.validate = firstFault? r.checks) ∧
    ∀ (config : Config) (call : ClientCall) (e : ClientError), firstFault? call.checks = some e →
      (call.action config).run = .done (.error e) ∧
        ∀ {ν σ : Type} [Node ν] [CheckpointStore σ] (w : World ν σ), (call.action config).run.run w = (.error e, w) := by
  refine ⟨errorOf?_validate, fun config call e he => ?_⟩
  have hdone := call.refuses config e he
  refine ⟨hdone, fun w => ?_⟩
  rw [hdone]
  rfl

/-- With a closed pool that holds a connection, a zero nonce to be guarded is told of before a wrong amount and a
wrong key. -/
theorem malformed_refused_closed :
    let contract := "0x00000000000000000000000000000000000000aa"
    let call := ClientCall.sendTokenGuarded .background "no key" contract "1.2.3" contract 0
    let w : World SimulatedNode MemoryStore := { World.initial .initial 0 .empty with pool := ⟨3, [7], true⟩ }
    firstFault? call.checks = some .nonceRequired ∧
      (call.action .standard).run.run w = (.error .nonceRequired, w) := by
  intro contract call w
  have hfault : firstFault? call.checks = some .nonceRequired := by decide +kernel
  exact ⟨hfault, (malformed_refused.2 .standard call .nonceRequired hfault).2 w⟩

end EvmClient
