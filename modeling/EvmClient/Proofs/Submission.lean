import EvmClient.Client
import EvmClient.Node.Simulated
import EvmClient.Proofs.Actions

/-
What a send leaves behind at the node.

   A send ends in a value or in an error, and the caller has nothing else to tell whether a transaction
   went out. `ClientError.submitted?` is the hash that an error owns up to. An action is `Silent` if it
   submits nothing and its errors name the transaction that is given, or none; it `Submits` if the node's
   list of submitted transactions grows by the one that its outcome names, and stays where it names none.

   1. Each step but a submission leaves the list (`perform_sent`), while no one else sends.
   2. All that comes before the submission is `Silent none`, and the wait after it is `Silent (some h)`,
      `h` being the submitted transaction (`content_silent`, `wait_silent`).
   3. `send_accounted` — the four sends `Submit`: no accepted transaction is lost to the caller, and no
      other error hides one. -/
namespace EvmClient

/-- The submitted transaction that an error names. -/
def ClientError.submitted? : ClientError → Option Hash
  | .transactionFailed hash | .receiptReadTimeout hash => some hash
  | _ => none

/-- The submitted transaction that an outcome names. -/
def submitted? {α : Type} (hashOf : α → Hash) : Except ClientError α → Option Hash
  | .ok a => some (hashOf a)
  | .error e => e.submitted?

/-- The list grew by one transaction of the named hash, or stayed as it was where none is named. -/
def Accounted (named : Option Hash) (fits : Envelope → Prop) (before after : List Envelope) : Prop :=
  match named with
  | some hash => ∃ tx, fits tx ∧ tx.hash = hash ∧ after = before ++ [tx]
  | none => after = before

theorem Accounted.mono {named : Option Hash} {fits fits' : Envelope → Prop} {before after : List Envelope}
    (h : Accounted named fits before after) (hfits : ∀ tx, fits tx → fits' tx) : Accounted named fits' before after := by
  cases named with
  | none => exact h
  | some hash =>
    obtain ⟨tx, htx, hrest⟩ := h
    exact ⟨tx, hfits tx htx, hrest⟩

/-- Whether an event leaves the list of submitted transactions as it is. -/
def Event.SparesSent : Event SimulatedNode → Prop
  | .cancel _ => True
  | .node change => ∀ n, (change n).sent = n.sent

/-- No one else submits a transaction while time goes by. -/
def World.Undisturbed {σ : Type} (w : World SimulatedNode σ) : Prop := ∀ e ∈ w.agenda, e.2.SparesSent

/-! ## Steps -/

section Steps
variable {σ : Type}

theorem happen_sent {e : Event SimulatedNode} (h : e.SparesSent) (w : World SimulatedNode σ) :
    (w.happen e).node.sent = w.node.sent := by
  cases e with
  | cancel _ => rfl
  | node change => exact h w.node

theorem happen_agenda (e : Event SimulatedNode) (w : World SimulatedNode σ) : (w.happen e).agenda = w.agenda := by
  cases e <;> rfl

theorem elapse_sent (ctx : Context) (stop : Nat) :
    ∀ (agenda : List (Nat × Event SimulatedNode)) (w : World SimulatedNode σ), (∀ e ∈ agenda, e.2.SparesSent) →
      (World.elapse ctx stop agenda w).Undisturbed ∧ (World.elapse ctx stop agenda w).node.sent = w.node.sent := by
  intro agenda
  induction agenda with
  | nil => intro w _; exact ⟨by simp [World.elapse, World.Undisturbed], rfl⟩
  | cons p rest ih =>
    obtain ⟨t, e⟩ := p
    intro w h
    have he : e.SparesSent := h (t, e) List.mem_cons_self
    have hrest : ∀ e ∈ rest, e.2.SparesSent := fun x hx => h x (List.mem_cons_of_mem _ hx)
    have hsent := happen_sent he { w with now := max w.now t, agenda := rest }
    simp only [World.elapse]
    split
    · exact ⟨h, rfl⟩
    · split
      · refine ⟨?_, hsent⟩
        rw [World.Undisturbed, happen_agenda]
        exact hrest
      · obtain ⟨hu, hs⟩ := ih (w := World.happen e { w with now := max w.now t, agenda := rest }) hrest
        exact ⟨hu, hs.trans hsent⟩

theorem pause_sent (ctx : Context) (span : Nat) {w : World SimulatedNode σ} (h : w.Undisturbed) :
    (w.pause ctx span).2.Undisturbed ∧ (w.pause ctx span).2.node.sent = w.node.sent := by
  unfold World.pause
  split
  · exact ⟨h, rfl⟩
  · split
    · exact ⟨h, rfl⟩
    · exact elapse_sent ctx _ w.agenda w h

/-- Only a submission adds to the list. -/
theorem ask_sent (query : Query) (n : SimulatedNode) (h : ∀ raw, query ≠ .sendRaw raw) :
    (SimulatedNode.ask query n).2.sent = n.sent := by
  cases query with
  | sendRaw raw => exact absurd rfl (h raw)
  | receipt hash =>
    simp only [SimulatedNode.ask, SimulatedNode.lookUpReceipt]
    split
    · split <;> rfl
    · rfl
  | blockByHeight height =>
    simp only [SimulatedNode.ask, SimulatedNode.lookUpBlock]
    split <;> rfl
  | _ => rfl

/-- A node's errors name no transaction. -/
theorem ask_error {query : Query} {n : SimulatedNode} {e : ClientError} (h : (SimulatedNode.ask query n).1 = .error e) :
    e.submitted? = none := by
  cases query with
  | sendRaw raw =>
    simp only [SimulatedNode.ask, SimulatedNode.accept] at h
    split at h
    · cases h; rfl
    · split at h <;> cases h
      rfl
  | receipt hash =>
    simp only [SimulatedNode.ask, SimulatedNode.lookUpReceipt] at h
    split at h
    · split at h <;> cases h
      rfl
    · cases h
  | blockByHeight height =>
    simp only [SimulatedNode.ask, SimulatedNode.lookUpBlock] at h
    split at h <;> cases h
    rfl
  | call request =>
    simp only [SimulatedNode.ask, SimulatedNode.reply] at h
    split at h
    · cases h; rfl
    · split at h <;> cases h
      rfl
  | _ => cases h

variable [CheckpointStore σ]

/-- A failed dial names no transaction. -/
theorem dial_error {n : SimulatedNode} {e : ClientError} (h : n.dial.1 = .error e) : e.submitted? = none := by
  unfold SimulatedNode.dial at h
  split at h <;> cases h
  rfl

theorem perform_sent (op : Op) (hop : ∀ c raw, op ≠ .ask c (.sendRaw raw)) {w : World SimulatedNode σ}
    (h : w.Undisturbed) : (w.perform op).2.Undisturbed ∧ (w.perform op).2.node.sent = w.node.sent := by
  cases op with
  | ask c query => exact ⟨h, ask_sent query w.node fun raw hq => hop c raw (by rw [hq])⟩
  | pause ctx span => exact pause_sent ctx span h
  | dial =>
    refine ⟨h, ?_⟩
    show (SimulatedNode.dial w.node).2.sent = w.node.sent
    unfold SimulatedNode.dial
    split <;> rfl
  | _ => exact ⟨h, rfl⟩

end Steps

/-! ## Actions that submit nothing -/

/-- A program that submits nothing, in a world where no one else does. -/
def Program.Still {α : Type} (p : Program α) : Prop :=
  ∀ (σ : Type) [CheckpointStore σ] (w : World SimulatedNode σ), w.Undisturbed →
    (p.run w).2.Undisturbed ∧ (p.run w).2.node.sent = w.node.sent

/-- An action that submits nothing, and whose errors name the given transaction, or none. -/
def Action.Silent {α : Type} (named : Option Hash) (a : Action α) : Prop :=
  ∀ (σ : Type) [CheckpointStore σ] (w : World SimulatedNode σ), w.Undisturbed →
    (a.run.run w).2.Undisturbed ∧ (a.run.run w).2.node.sent = w.node.sent ∧
      ∀ e, (a.run.run w).1 = .error e → e.submitted? = named

section Silence
variable {α β : Type} {named : Option Hash}

theorem Program.Still.bind {p : Program α} {f : α → Program β} (hp : p.Still) (hf : ∀ a, (f a).Still) :
    (p >>= f).Still := by
  intro σ _ w hw
  rw [Program.run_bind]
  obtain ⟨hu, hs⟩ := hp σ w hw
  obtain ⟨hu', hs'⟩ := hf (p.run w).1 σ _ hu
  exact ⟨hu', hs'.trans hs⟩

theorem Program.Still.perform {op : Op} (h : ∀ c raw, op ≠ .ask c (.sendRaw raw)) : (perform op).Still :=
  fun _ _ _ hw => perform_sent op h hw

namespace Action.Silent

theorem pure (v : α) : Silent named (Pure.pure v : Action α) :=
  fun _ _ _ hw => ⟨hw, rfl, fun _ h => by cases h⟩

theorem throw {e : ClientError} (h : e.submitted? = named) : Silent named (MonadExcept.throw e : Action α) :=
  fun _ _ _ hw => ⟨hw, rfl, fun _ h' => by cases h'; exact h⟩

theorem except {r : Except ClientError α} (h : ∀ e, r = .error e → e.submitted? = named) :
    Silent named (liftM r : Action α) :=
  fun _ _ _ hw => ⟨hw, rfl, h⟩

theorem program {p : Program α} (h : p.Still) : Silent named (liftM p : Action α) := by
  intro σ _ w hw
  obtain ⟨hu, hs⟩ := h σ w hw
  rw [run_program]
  exact ⟨hu, hs, fun _ h' => by cases h'⟩

theorem bind {a : Action α} {f : α → Action β} (ha : Silent named a) (hf : ∀ v, Silent named (f v)) :
    Silent named (a >>= f) := by
  intro σ _ w hw
  obtain ⟨hu, hs, he⟩ := ha σ w hw
  rw [run_bind]
  rcases hr : a.run.run w with ⟨r, w'⟩
  rw [hr] at hu hs he
  cases r with
  | error e => exact ⟨hu, hs, fun e' h => by cases h; exact he e rfl⟩
  | ok v =>
    obtain ⟨hu', hs', he'⟩ := hf v σ w' hu
    exact ⟨hu', hs'.trans hs, he'⟩

/-- What stands behind an error does not run. -/
theorem throw_bind {e : ClientError} (h : e.submitted? = named) {f : α → Action β} :
    Silent named ((MonadExcept.throw e : Action α) >>= f) := by
  intro σ _ w hw
  rw [run_bind_error (run_throw e w)]
  exact ⟨hw, rfl, fun _ h' => by cases h'; exact h⟩

theorem ite {c : Prop} [Decidable c] {a b : Action α} (ha : c → Silent named a) (hb : ¬c → Silent named b) :
    Silent named (if c then a else b) := by
  split
  · rename_i h; exact ha h
  · rename_i h; exact hb h

theorem ask (c : Connection) {query : Query} (h : ∀ raw, query ≠ .sendRaw raw) :
    Silent none (Action.ask c query) := by
  intro σ _ w hw
  obtain ⟨hu, hs⟩ := perform_sent (.ask c query) (fun c raw hq => h raw (by cases hq; rfl)) hw
  exact ⟨hu, hs, fun e he => ask_error he⟩

theorem dial : Silent none Action.dial := by
  intro σ _ w hw
  obtain ⟨hu, hs⟩ := perform_sent .dial (fun _ _ h => by cases h) hw
  exact ⟨hu, hs, fun e he => dial_error he⟩

/-- An error that is taken as a value is no error. -/
theorem outcome {other : Option Hash} {a : Action α} (ha : Silent other a) : Silent named a.outcome := by
  intro σ _ w hw
  obtain ⟨hu, hs, _⟩ := ha σ w hw
  rw [run_outcome]
  exact ⟨hu, hs, fun _ h => by cases h⟩

end Action.Silent
end Silence

/-! ## Before the submission -/

/-- A result whose error, if it is one, names no transaction. -/
def Nameless {α : Type} (r : Except ClientError α) : Prop := ∀ e, r = .error e → e.submitted? = none

theorem Nameless.ok {α : Type} (a : α) : Nameless (.ok a) := fun _ h => by cases h

theorem Nameless.error {α : Type} {e : ClientError} (h : e.submitted? = none) : Nameless (.error e : Except ClientError α) :=
  fun _ h' => by cases h'; exact h

theorem Nameless.bind {α β : Type} {r : Except ClientError α} {f : α → Except ClientError β} (hr : Nameless r)
    (hf : ∀ a, Nameless (f a)) : Nameless (r >>= f) := by
  cases r with
  | error e => exact fun e' h => hr e' (by cases h; rfl)
  | ok a => exact hf a

theorem parse_nameless (s : String) : Nameless (Address.parse s) := by
  unfold Address.parse
  split
  · exact .ok _
  · exact .error rfl

theorem parseContract_nameless (s : Option String) : Nameless (Address.parseContract s) := by
  cases s with
  | none => exact .error rfl
  | some s =>
    simp only [Address.parseContract]
    split
    · exact .error rfl
    · exact parse_nameless _

theorem amount_nameless (s : String) : Nameless (DecimalAmount.parse s) := by
  unfold DecimalAmount.parse
  split
  · exact .ok _
  · exact .error rfl

theorem baseUnits_nameless (a : DecimalAmount) (decimals : Nat) : Nameless (a.baseUnits decimals) := by
  simp only [DecimalAmount.baseUnits]
  split
  · exact .ok _
  · exact .error rfl

theorem checkNonce_nameless (r : SendRequest) : Nameless r.checkNonce := by
  unfold SendRequest.checkNonce
  split
  · exact .error rfl
  · exact .ok _

theorem validate_nameless (r : SendRequest) : Nameless r.validate := by
  unfold SendRequest.validate
  cases r.payload with
  | native amount =>
    refine .bind (parse_nameless _) fun _ => .bind (checkNonce_nameless r) fun _ => ?_
    exact .bind (amount_nameless _) fun _ => .ok _
  | token amount contract =>
    refine .bind (parse_nameless _) fun _ => .bind (parseContract_nameless _) fun _ => ?_
    exact .bind (checkNonce_nameless r) fun _ => .bind (amount_nameless _) fun _ => .ok _
  | rawCall data =>
    exact .bind (parseContract_nameless _) fun _ => .bind (checkNonce_nameless r) fun _ => .ok _

theorem signer_nameless (s : String) : Nameless (Signer.parse s) := by
  unfold Signer.parse
  split
  · exact .ok _
  · exact .error rfl

theorem ofRequest_nameless (request : SendRequest) : Nameless (Transfer.ofRequest request) :=
  .bind (validate_nameless request) fun _ => .bind (signer_nameless _) fun _ => .ok _

theorem checkFunds_nameless (balance gasCost : Word256) (amount : Option Word256) :
    Nameless (checkFunds balance gasCost amount) := by
  unfold checkFunds
  split
  · exact .error rfl
  · cases amount with
    | none => exact .ok _
    | some a =>
      dsimp only
      split
      · exact .error rfl
      · exact .ok _

theorem vFor_nameless (odd : Bool) (chain : Word64) : Nameless (ChainSignature.vFor odd chain) := by
  simp only [ChainSignature.vFor]
  by_cases h : chain.toNat * 2 + 35 + (if odd then 1 else 0) < UInt64.size
  · rw [if_pos h]; exact .ok _
  · rw [if_neg h]; exact .error rfl

theorem sign_nameless (s : Signer) (tx : Draft) (chain : Word64) : Nameless (s.sign tx chain) := by
  rw [Signer.sign]
  cases Ecdsa.sign? s.key (tx.signingHash chain) with
  | none => exact .error rfl
  | some sig =>
    rw [Signer.affix]
    split
    · rename_i h
      exact .error (vFor_nameless _ _ _ h)
    · exact .ok _

theorem decodeBalanceOf_nameless (data : Bytes) : Nameless (Token.decodeBalanceOf data) := by
  unfold Token.decodeBalanceOf
  split
  · exact .ok _
  · exact .error rfl

theorem decodeDecimals_nameless (data : Bytes) : Nameless (Token.decodeDecimals data) := by
  unfold Token.decodeDecimals
  split
  · split
    · exact .ok _
    · exact .error rfl
  · exact .error rfl

open EvmClient.Action

theorem decimals_silent (c : Connection) (contract : Address) : Silent none (Token.decimals c contract) :=
  .bind (.ask c (fun _ h => by cases h)) fun _ => .except (decodeDecimals_nameless _)

theorem balanceOf_silent (c : Connection) (contract owner : Address) :
    Silent none (Token.balanceOf c contract owner) :=
  .bind (.ask c (fun _ h => by cases h)) fun _ => .except (decodeBalanceOf_nameless _)

theorem estimate_silent (c : Connection) (sender contract : Address) (data : Bytes) :
    Silent none (Transfer.estimate c sender contract data) := .ask c fun _ h => by cases h

theorem checkGuard_silent (c : Connection) (sender : Address) (policy : NoncePolicy) :
    Silent none (Transfer.checkGuard c sender policy) := by
  cases policy with
  | guarded given =>
    refine .bind (.ask c (fun _ h => by cases h)) fun pending => .ite (fun _ => ?_) fun _ => .pure _
    exact .throw rfl
  | _ => exact .pure _

theorem content_silent (config : Config) (c : Connection) (sender : Address) (t : Transfer) :
    Silent none (t.content config c sender) := by
  cases t with
  | native payee amount => exact .bind (.except (baseUnits_nameless _ _)) fun _ => .pure _
  | token contract payee amount =>
    refine .bind (decimals_silent c contract) fun _ => .bind (.except (baseUnits_nameless _ _)) fun units => ?_
    refine .bind (balanceOf_silent c contract sender) fun balance => .ite (fun _ => .throw_bind rfl) fun _ => ?_
    exact .bind (estimate_silent c sender contract _) fun _ => .pure _
  | rawCall contract data => exact .bind (estimate_silent c sender contract _) fun _ => .pure _

theorem chooseNonce_silent (c : Connection) (sender : Address) (policy : NoncePolicy) :
    Silent none (Transfer.chooseNonce c sender policy) := by
  unfold Transfer.chooseNonce
  split
  · exact .pure _
  · exact .ask c fun _ h => by cases h

/-! ## The submission -/

/-- An action after which the node's list accounts for the outcome. -/
def Action.Submits {α : Type} (hashOf : α → Hash) (fits : Except ClientError α → Envelope → Prop) (a : Action α) : Prop :=
  ∀ (σ : Type) [CheckpointStore σ] (w : World SimulatedNode σ), w.Undisturbed →
    (a.run.run w).2.Undisturbed ∧
      Accounted (submitted? hashOf (a.run.run w).1) (fits (a.run.run w).1) w.node.sent (a.run.run w).2.node.sent

/-- The outcome is a value: the transaction is not named by an error. -/
def IsValue {α : Type} (r : Except ClientError α) (_ : Envelope) : Prop := ∃ a, r = .ok a

namespace Action.Submits
variable {α β : Type} {hashOf : α → Hash} {fits : Except ClientError α → Envelope → Prop}

/-- Errors before the submission account for themselves. -/
theorem after_silent {a : Action β} {f : β → Action α} (ha : Silent none a) (hf : ∀ v, Submits hashOf fits (f v)) :
    Submits hashOf fits (a >>= f) := by
  intro σ _ w hw
  obtain ⟨hu, hs, he⟩ := ha σ w hw
  rw [run_bind]
  rcases hr : a.run.run w with ⟨r, w'⟩
  rw [hr] at hu hs he
  cases r with
  | error e =>
    refine ⟨hu, ?_⟩
    have hnone : submitted? hashOf (.error e : Except ClientError α) = none := he e rfl
    dsimp only
    rw [hnone]
    exact hs
  | ok v =>
    obtain ⟨hu', hacc⟩ := hf v σ w' hu
    refine ⟨hu', ?_⟩
    dsimp only at hs ⊢
    rwa [← hs]

theorem mono {fits' : Except ClientError α → Envelope → Prop} {a : Action α} (ha : Submits hashOf fits a)
    (h : ∀ r tx, fits r tx → fits' r tx) : Submits hashOf fits' a := by
  intro σ _ w hw
  obtain ⟨hu, hacc⟩ := ha σ w hw
  exact ⟨hu, hacc.mono fun tx => h _ tx⟩

/-- A value that is made of another names the same transaction. -/
theorem map {hashOf' : β → Hash} {fits' : Except ClientError β → Envelope → Prop} {a : Action β} {g : β → α}
    (ha : Submits hashOf' fits' a) (hhash : ∀ v, hashOf (g v) = hashOf' v)
    (hok : ∀ v tx, fits' (.ok v) tx → fits (.ok (g v)) tx) (herror : ∀ e tx, fits' (.error e) tx → fits (.error e) tx) :
    Submits hashOf fits (a >>= fun v => Pure.pure (g v)) := by
  intro σ _ w hw
  obtain ⟨hu, hacc⟩ := ha σ w hw
  rw [run_bind]
  rcases hr : a.run.run w with ⟨r, w'⟩
  rw [hr] at hu hacc
  cases r with
  | error e => exact ⟨hu, hacc.mono fun tx => herror e tx⟩
  | ok v =>
    obtain ⟨tx, hfits, hh, hs⟩ := hacc
    exact ⟨hu, tx, hok v tx hfits, hh.trans (hhash v).symm, hs⟩

/-- What follows the submission keeps its hash in its errors and in its value. -/
theorem then_silent {a : Action Hash} {f : Hash → Action β} {g : Hash → β → α} {P : Envelope → Prop}
    (ha : Submits id (fun _ => P) a) (hf : ∀ h, Silent (some h) (f h)) (hhash : ∀ h v, hashOf (g h v) = h)
    (hok : ∀ h v tx, P tx → fits (.ok (g h v)) tx) (herror : ∀ e tx, P tx → fits (.error e) tx) :
    Submits hashOf fits (a >>= fun h => f h >>= fun v => Pure.pure (g h v)) := by
  intro σ _ w hw
  obtain ⟨hu, hacc⟩ := ha σ w hw
  rw [run_bind]
  rcases hr : a.run.run w with ⟨r, w'⟩
  rw [hr] at hu hacc
  cases r with
  | error e => exact ⟨hu, hacc.mono fun tx => herror e tx⟩
  | ok h =>
    obtain ⟨tx, hP, hh, hs⟩ := hacc
    obtain ⟨hu', hs', he⟩ := hf h σ w' hu
    -- The hash is not lost behind the submission: an error names it, and a value is wrapped with it.
    dsimp only at hs ⊢
    rw [run_bind]
    rcases hr' : (f h).run.run w' with ⟨r', w''⟩
    rw [hr'] at hu' hs' he
    refine ⟨by cases r' <;> exact hu', ?_⟩
    cases r' with
    | error e =>
      have hsome : submitted? hashOf (.error e : Except ClientError α) = some h := he e rfl
      dsimp only
      rw [hsome]
      exact ⟨tx, herror e tx hP, hh, hs'.trans hs⟩
    | ok v => exact ⟨tx, hok h v tx hP, by rw [hh, hhash]; rfl, hs'.trans hs⟩

/-- A node takes in a transaction that it can decode, and answers its hash. -/
theorem sendRaw (c : Connection) (raw : Bytes) :
    Submits id (fun r tx => IsValue r tx ∧ Envelope.ofRaw? raw = .ok tx) (Action.ask c (.sendRaw raw)) := by
  intro σ _ w hw
  refine ⟨hw, ?_⟩
  show Accounted (submitted? id (w.node.accept raw).1)
    (fun tx => IsValue (w.node.accept raw).1 tx ∧ Envelope.ofRaw? raw = .ok tx) w.node.sent (w.node.accept raw).2.sent
  unfold SimulatedNode.accept
  split
  · rfl
  · split
    · rfl
    · rename_i tx htx
      refine ⟨tx, ⟨⟨tx.hash, rfl⟩, htx⟩, rfl, ?_⟩
      split <;> rfl

end Action.Submits

/-! ## Holding a connection -/

theorem acquire_silent : Silent none Lease.acquire := by
  refine .bind (.program (.perform fun _ _ h => by cases h)) fun idle => ?_
  cases idle with
  | some c => exact .pure c
  | none =>
    refine .bind (.program (.perform fun _ _ h => by cases h)) fun closed => ?_
    exact .ite (fun _ => .throw_bind rfl) fun _ => .dial

theorem giveBack_still (c : Connection) : (Lease.giveBack c).Still := by
  refine .bind (.perform fun _ _ h => by cases h) fun kept => ?_
  cases kept with
  | true => exact fun _ _ _ hw => ⟨hw, rfl⟩
  | false => exact .bind (.perform fun _ _ h => by cases h) fun _ _ _ _ hw => ⟨hw, rfl⟩

/-- To take a connection and to give it back changes nothing in the accounts. -/
theorem Action.Submits.withConnection {α : Type} {hashOf : α → Hash} {fits : Except ClientError α → Envelope → Prop}
    {body : Connection → Action α} (h : ∀ c, Submits hashOf fits (body c)) :
    Submits hashOf fits (Lease.withConnection body) := by
  intro σ _ w hw
  obtain ⟨hu, hs, he⟩ := acquire_silent σ w hw
  rw [Lease.run_withConnection]
  rcases hr : Lease.acquire.run.run w with ⟨r, w'⟩
  rw [hr] at hu hs he
  cases r with
  | error e =>
    refine ⟨hu, ?_⟩
    have hnone : submitted? hashOf (.error e : Except ClientError α) = none := he e rfl
    dsimp only
    rw [hnone]
    exact hs
  | ok c =>
    -- The connection goes back after the operation, whatever its outcome is.
    obtain ⟨hu', hacc⟩ := h c σ w' hu
    obtain ⟨hu'', hs''⟩ := giveBack_still c σ _ hu'
    refine ⟨hu'', ?_⟩
    dsimp only at hs ⊢
    rwa [hs'', ← hs]

/-! ## The wait -/

/-- A receipt that decides against a transaction names it. -/
theorem decision_error {hash : Hash} {answer : Except ClientError (Option Receipt)} {r : Except ClientError TransferStatus}
    (h : Confirmation.decision? hash answer = some r) : ∀ e, r = .error e → e.submitted? = some hash := by
  rintro e rfl
  unfold Confirmation.decision? at h
  split at h
  · split at h
    · cases h; rfl
    · split at h
      · obtain ⟨_, _, h⟩ := Option.map_eq_some_iff.1 h
        cases h
      · cases h
  · cases h

theorem poll_silent (interval : Nat) (ctx : Context) (c : Connection) (hash : Hash) (left attempts : Nat) :
    Silent (some hash) (Confirmation.poll interval ctx c hash left attempts) := by
  induction left generalizing attempts with
  | zero => exact .pure _
  | succ left ih =>
    simp only [Confirmation.poll]
    refine .bind (.program (.perform fun _ _ h => by cases h)) fun late => .ite (fun _ => .throw_bind rfl) fun _ => ?_
    refine .bind (.program (.perform fun _ _ h => by cases h)) fun done => .ite (fun _ => .throw_bind rfl) fun _ => ?_
    -- The receipt decides, or the rest of the attempts follows.
    refine .bind (.outcome (.ask c fun _ h => by cases h)) fun answer => ?_
    split
    · rename_i h
      exact .except (decision_error h)
    · exact ih (attempts + 1)

theorem wait_silent (config : ConfirmationConfig) (ctx : Context) (c : Connection) (hash : Hash) :
    Silent (some hash) (Confirmation.wait config ctx c hash) :=
  poll_silent config.pollInterval ctx c hash config.maxRetries 0

/-! ## The four sends -/

/-- The transaction that the raw text denotes, which is also the one that a value gives back. -/
def Denoted {α : Type} (text : String) (given : α → Envelope) (r : Except ClientError α) (tx : Envelope) : Prop :=
  (∃ raw, Envelope.ofHex? text = .ok (raw, tx)) ∧ ∀ a, r = .ok a → given a = tx

theorem ofHex_ofRaw {text : String} {raw : Bytes} {tx : Envelope} (h : Envelope.ofHex? text = .ok (raw, tx)) :
    Envelope.ofRaw? raw = .ok tx := by
  unfold Envelope.ofHex? at h
  split at h
  · cases h
  · split at h <;> cases h
    assumption

theorem ofRawText_cases (text : String) :
    (∃ reason, Transfer.ofRawText text = .error (.decode reason)) ∨
      ∃ raw tx, Transfer.ofRawText text = .ok (raw, tx) ∧ Envelope.ofHex? text = .ok (raw, tx) := by
  unfold Transfer.ofRawText
  split
  · rename_i r h; exact .inr ⟨r.1, r.2, rfl, h⟩
  · exact .inl ⟨_, rfl⟩

theorem submit_submits (config : Config) (c : Connection) (t : Transfer) (signer : Signer) (policy : NoncePolicy) :
    Submits id IsValue (t.submit config c signer policy) := by
  unfold Transfer.submit
  -- All that can fail before the last step is silent.
  refine .after_silent (checkGuard_silent c signer.address policy) fun _ => ?_
  refine .after_silent (content_silent config c signer.address t) fun content => ?_
  refine .after_silent (.ask c fun _ h => by cases h) fun balance => ?_
  refine .after_silent (.ask c fun _ h => by cases h) fun price => ?_
  refine .after_silent (.except (checkFunds_nameless _ _ _)) fun _ => ?_
  refine .after_silent (chooseNonce_silent c signer.address policy) fun nonce => ?_
  refine .after_silent (.except (sign_nameless signer _ _)) fun signed => ?_
  exact .mono (.sendRaw c signed.raw) fun _ _ h => h.1

theorem sendOnly_isValue (config : Config) (request : SendRequest) :
    Submits id IsValue (Transfer.sendOnly config request) := by
  refine .after_silent (.except (ofRequest_nameless request)) fun checked => ?_
  exact .withConnection fun c => submit_submits config c checked.1 checked.2 request.nonce

theorem sendOnly_submits (config : Config) (request : SendRequest) :
    Submits id (fun _ _ => True) (Transfer.sendOnly config request) :=
  (sendOnly_isValue config request).mono fun _ _ _ => trivial

theorem sendAndWait_submits (config : Config) (ctx : Context) (request : SendRequest) :
    Submits TransferReceipt.hash (fun _ _ => True) (Transfer.sendAndWait config ctx request) := by
  refine .after_silent (.except (ofRequest_nameless request)) fun checked => .withConnection fun c => ?_
  have hsubmit : Submits id (fun _ _ => True) (checked.1.submit config c checked.2 request.nonce) :=
    (submit_submits config c checked.1 checked.2 request.nonce).mono fun _ _ _ => trivial
  exact .then_silent hsubmit (wait_silent config.confirmation ctx c) (fun _ _ => rfl) (fun _ _ _ h => h) fun _ _ h => h

/-- A raw text that cannot be decoded is told from one that can before anything else happens. -/
theorem ofRawText_submits {α : Type} {hashOf : α → Hash} {text : String} {fits : Except ClientError α → Envelope → Prop}
    {f : Bytes × Envelope → Action α}
    (h : ∀ raw tx, Envelope.ofHex? text = .ok (raw, tx) → Submits hashOf fits (f (raw, tx))) :
    Submits hashOf fits ((liftM (Transfer.ofRawText text) : Action _) >>= f) := by
  rcases ofRawText_cases text with ⟨reason, hr⟩ | ⟨raw, tx, hr, hhex⟩
  · rw [hr]
    intro σ _ w hw
    exact ⟨hw, rfl⟩
  · rw [hr]
    exact h raw tx hhex

/-- The node decodes the text's bytes as the client did. -/
theorem sendRaw_denoted {text : String} {raw : Bytes} {tx : Envelope} (h : Envelope.ofHex? text = .ok (raw, tx))
    (c : Connection) : Submits id (fun r tx' => IsValue r tx' ∧ tx' = tx) (Action.ask c (.sendRaw raw)) := by
  refine .mono (.sendRaw c raw) fun r tx' hsent => ⟨hsent.1, ?_⟩
  have htx' := hsent.2
  rw [ofHex_ofRaw h] at htx'
  cases htx'
  rfl

theorem sendRawOnly_isValue (text : String) :
    Submits Prod.fst (fun r tx => IsValue r tx ∧ Denoted text Prod.snd r tx) (Transfer.sendRawOnly text) := by
  refine ofRawText_submits fun raw tx h => .withConnection fun c => ?_
  refine .map (sendRaw_denoted h c) (fun _ => rfl) ?_ ?_
  · rintro hash _ ⟨-, rfl⟩
    exact ⟨⟨_, rfl⟩, ⟨raw, h⟩, fun a ha => by cases ha; rfl⟩
  · rintro e _ ⟨⟨_, h⟩, -⟩
    cases h

theorem sendRawOnly_submits (text : String) :
    Submits Prod.fst (Denoted text Prod.snd) (Transfer.sendRawOnly text) :=
  (sendRawOnly_isValue text).mono fun _ _ h => h.2

theorem sendRawAndWait_submits (config : Config) (ctx : Context) (text : String) :
    Submits (·.1.hash) (Denoted text Prod.snd) (Transfer.sendRawAndWait config ctx text) := by
  refine ofRawText_submits fun raw tx h => .withConnection fun c => ?_
  have hsent : Submits id (fun _ => (· = tx)) (Action.ask c (.sendRaw raw)) :=
    (sendRaw_denoted h c).mono fun _ _ h => h.2
  refine .then_silent (g := fun hash status => ((⟨hash, status⟩ : TransferReceipt), tx)) hsent
    (wait_silent config.confirmation ctx c) (fun _ _ => rfl) ?_ ?_
  · rintro hash status _ rfl
    exact ⟨⟨raw, h⟩, fun a ha => by cases ha; rfl⟩
  · rintro e _ rfl
    exact ⟨⟨raw, h⟩, fun a ha => by cases ha⟩

/-- A send's outcome tells what it left at the node: the one transaction that a value or an error names, and
for a raw one that which the text denotes, or none. -/
theorem send_accounted {σ : Type} [CheckpointStore σ] (config : Config) (ctx : Context) (request : SendRequest)
    (text : String) (w : World SimulatedNode σ) (hw : w.Undisturbed) :
    (let r := (Client.submit config request).run.run w
     Accounted (submitted? id r.1) (fun _ => True) w.node.sent r.2.node.sent) ∧
    (let r := (Client.send config ctx request).run.run w
     Accounted (submitted? TransferReceipt.hash r.1) (fun _ => True) w.node.sent r.2.node.sent) ∧
    (let r := (Client.submitRaw text).run.run w
     Accounted (submitted? Prod.fst r.1) (Denoted text Prod.snd r.1) w.node.sent r.2.node.sent) ∧
    (let r := (Client.sendRaw config ctx text).run.run w
     Accounted (submitted? (·.1.hash) r.1) (Denoted text Prod.snd r.1) w.node.sent r.2.node.sent) := by
  unfold Client.submit Client.send Client.submitRaw Client.sendRaw
  refine ⟨?_, ?_, ?_, ?_⟩
  · exact (sendOnly_submits config request σ w hw).2
  · exact (sendAndWait_submits config ctx request σ w hw).2
  · exact (sendRawOnly_submits text σ w hw).2
  · exact (sendRawAndWait_submits config ctx text σ w hw).2

/-- A world in which a handle is cancelled and the head moves while a send waits. -/
def busyWorld : World SimulatedNode MemoryStore :=
  { World.initial .initial 0 .empty with agenda := [(5, .cancel 0), (7, .node (SimulatedNode.setHead 9))] }

def emptyLegacy : Legacy := ⟨⟨0, 0, 0, none, 0, []⟩, ⟨0, 0, 0⟩⟩

/-- A list of nine empty strings is a transaction, and the node has it after it was sent. -/
theorem send_accounted_minimal :
    busyWorld.Undisturbed ∧
      ((Client.submitRaw "0xc9808080808080808080").run.run busyWorld).2.node.sent = [.legacy emptyLegacy] := by
  have hw : busyWorld.Undisturbed := by
    rintro e (_ | ⟨_, _ | ⟨_, ⟨⟩⟩⟩)
    · trivial
    · exact fun _ => rfl
  obtain ⟨-, -, hraw, -⟩ := send_accounted .standard .background ⟨"", "", .native "", .pending⟩
    "0xc9808080808080808080" busyWorld hw
  refine ⟨hw, ?_⟩
  obtain ⟨tx, ⟨⟨raw, htx⟩, -⟩, -, hsent⟩ := hraw
  have htx' : tx = .legacy emptyLegacy := by
    cases htx
    rfl
  rw [← htx']
  exact hsent

end EvmClient
