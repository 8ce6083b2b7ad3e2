import EvmClient.Node.JsonRpc
import EvmClient.Node.Simulated
import EvmClient.Proofs.Exchanges
import EvmClient.Token

/-
What a node shows to a transfer, and how it refuses one.

   A `ChainView` says what a node answers to the questions of a transfer, as long as nothing is submitted. A node in
   memory shows one as it stands; of any other node it is an assumption that the chain stands still. That failing
   submissions are told apart from all other failures holds of both kinds of nodes.

   1. `SimulatedNode.shows` — what is asked otherwise does not change the answers.
   2. `RefusingNode` — a submission that fails ends in an error of its own. -/
namespace EvmClient

/-! ## What a node shows -/

/-- What a node answers to questions. -/
abbrev ChainView := (query : Query) → Except ClientError query.Answer

/-- The questions that are asked before a submission. -/
def Query.Reads : Query → Prop
  | .balance _ | .pendingNonce _ | .gasPrice | .estimateGas _ | .call _ => True
  | _ => False

def Exchange.handed? : Exchange → Option (Bytes × Except ClientError Hash)
  | ⟨.sendRaw raw, r⟩ => some (raw, r)
  | _ => none

/-- The raw transactions that were handed to the node, with its answers. -/
def handedOver (told : List Exchange) : List (Bytes × Except ClientError Hash) := told.filterMap Exchange.handed?

namespace ChainView

/-- The node answers as the view has it, until something is submitted. -/
def fitting (view : ChainView) : Fitting := fun told query r => handedOver told = [] → query.Reads → r = view query

variable (view : ChainView)

def pending (sender : Address) : Word64 := (view (.pendingNonce sender)).toOption.getD 0

def balance (owner : Address) : Word256 := (view (.balance owner)).toOption.getD 0

def gasPrice : Word256 := (view .gasPrice).toOption.getD 0

def decimals (contract : Address) : Except ClientError Nat :=
  view (.call (.ofData contract Token.encodeDecimals)) >>= Token.decodeDecimals

def tokenBalance (contract owner : Address) : Except ClientError Word256 :=
  view (.call (.ofData contract (Token.encodeBalanceOf owner))) >>= Token.decodeBalanceOf

def gas (sender contract : Address) (data : Bytes) : Except ClientError Word64 :=
  view (.estimateGas ((CallRequest.ofData contract data).withSender sender))

end ChainView

theorem handedOver_append (a b : List Exchange) : handedOver (a ++ b) = handedOver a ++ handedOver b :=
  List.filterMap_append

theorem handedOver_read {query : Query} (hquery : query.Reads) {told : List Exchange} (hnone : handedOver told = [])
    (r : Except ClientError query.Answer) : handedOver (told ++ [⟨query, r⟩]) = [] := by
  rw [handedOver_append, hnone]
  cases query with
  | sendRaw raw => exact absurd hquery id
  | _ => rfl

/-- Only a submission changes what a node in memory answers to these questions. -/
theorem SimulatedNode.ask_reads {asked query : Query} (hasked : ∀ raw, asked ≠ .sendRaw raw) (hquery : query.Reads)
    (n : SimulatedNode) : ((n.ask asked).2.ask query).1 = (n.ask query).1 := by
  have hsteady (m : SimulatedNode) (hm : ∃ scripts receiptQueries blockQueries,
      m = { n with scripts, receiptQueries, blockQueries }) : (m.ask query).1 = (n.ask query).1 := by
    obtain ⟨_, _, _, rfl⟩ := hm
    cases query with
    | balance _ | pendingNonce _ | gasPrice | estimateGas _ | call _ => rfl
    | _ => exact absurd hquery id
  apply hsteady
  cases asked with
  | sendRaw raw => exact absurd rfl (hasked raw)
  | receipt hash =>
    simp only [SimulatedNode.ask, SimulatedNode.lookUpReceipt]
    split
    · split <;> exact ⟨_, _, _, rfl⟩
    · exact ⟨_, _, _, rfl⟩
  | blockByHeight height =>
    simp only [SimulatedNode.ask, SimulatedNode.lookUpBlock]
    split <;> exact ⟨_, _, _, rfl⟩
  | _ => exact ⟨_, _, _, rfl⟩

/-- A node in memory shows what it answers at first. -/
theorem SimulatedNode.shows (n : SimulatedNode) (c : Connection) :
    Node.Gives c (ChainView.fitting fun query => (n.ask query).1) [] n := by
  refine ⟨fun told m => handedOver told = [] → ∀ query, query.Reads → (m.ask query).1 = (n.ask query).1,
    fun _ _ _ => rfl, fun told m hm asked => ⟨fun hnone hreads => hm hnone asked hreads, ?_⟩⟩
  intro hnone query hreads
  rw [handedOver_append, List.append_eq_nil_iff] at hnone
  have hasked : ∀ raw, asked ≠ .sendRaw raw := by
    rintro raw rfl
    cases hnone.2
  exact (ask_reads hasked hreads m).trans (hm hnone.1 query hreads)

/-! ## Refusals -/

/-- A node whose failing submissions are told apart from all other failures. -/
class RefusingNode (ν : Type) [Node ν] : Prop where
  refused : ∀ (raw : Bytes) (c : Connection) (n : ν) (e : ClientError),
    (Node.ask (.sendRaw raw) c n).1 = .error e → ∃ cause, e = .submit cause

instance : RefusingNode SimulatedNode where
  refused raw c n e h := by
    have haccept : (n.accept raw).1 = .error e := h
    unfold SimulatedNode.accept at haccept
    split at haccept
    · cases haccept
      exact ⟨_, rfl⟩
    · split at haccept
      · cases haccept
        exact ⟨_, rfl⟩
      · cases haccept

theorem Query.answer_error {query : Query} {response : Except LinkFailure HttpResponse} {e : ClientError}
    (h : query.answer response = .error e) : ∃ cause, e = query.failure cause := by
  unfold Query.answer at h
  cases response with
  | error failure =>
    cases failure with
    | timeout | broken reason =>
      cases h
      exact ⟨_, rfl⟩
  | ok r =>
    dsimp only at h
    cases hread : r.result.bind query.read with
    | ok a =>
      rw [hread] at h
      cases h
    | error cause =>
      rw [hread] at h
      cases h
      exact ⟨cause, rfl⟩

/-- Whatever goes wrong while a connection is made is told as one failure. -/
theorem HttpNode.dial_error {κ : Type} [Link κ] {n : HttpNode κ} {e : ClientError} (h : n.dial.1 = .error e) :
    ∃ reason, e = .dialFailed reason := by
  unfold HttpNode.dial at h
  dsimp only at h
  split at h
  · cases h
    exact ⟨_, rfl⟩
  · split at h
    · cases h
      exact ⟨_, rfl⟩
    · split at h
      · cases h
      · cases h
        exact ⟨_, rfl⟩

instance {κ : Type} [Link κ] : RefusingNode (HttpNode κ) where
  refused raw _ _ e h := @Query.answer_error (.sendRaw raw) _ e h

end EvmClient
