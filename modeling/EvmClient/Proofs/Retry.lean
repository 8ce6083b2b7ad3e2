import EvmClient.Proofs.Submission

/-
What a failure that may be retried left at the node.

   A caller who is told that a failure may pass by itself calls again, and pays twice if the first call had
   sent its transaction.

   1. `isRetryable_named` — of the errors that name a submitted transaction, only the one of a wait that was
      ended from outside counts as retryable.
   2. `error_unchanged` — a send that does not wait submitted nothing if it ends in an error.
   3. `retry_accounted` — a retryable error of a send is one after which nothing was submitted, or the one of
      its wait, which names the transaction that was. `late_timeout` is such a call: so a caller has to look
      the named transaction up before calling again. -/
namespace EvmClient

theorem ClientError.isRetryable_named {e : ClientError} (h : e.isRetryable = true) :
    e.submitted? = none ∨ ∃ hash, e = .receiptReadTimeout hash := by
  cases e with
  | receiptReadTimeout hash => exact .inr ⟨hash, rfl⟩
  | transactionFailed hash => cases h
  | _ => exact .inl rfl

/-- After the end of a wait the named transaction is the one that was added, and after other errors none was. -/
def RetryLeaves (e : ClientError) (before after : List Envelope) : Prop :=
  match e with
  | .receiptReadTimeout hash => ∃ tx : Envelope, tx.hash = hash ∧ after = before ++ [tx]
  | _ => after = before

namespace Action.Submits
variable {α σ : Type} [CheckpointStore σ] {hashOf : α → Hash} {a : Action α} {e : ClientError}
  {w w' : World SimulatedNode σ}

theorem error_unchanged (ha : Submits hashOf IsValue a) (hw : w.Undisturbed) (h : a.run.run w = (.error e, w')) :
    w'.node.sent = w.node.sent := by
  obtain ⟨-, hacc⟩ := ha σ w hw
  rw [h] at hacc
  cases hnamed : submitted? hashOf (.error e : Except ClientError α) with
  | none =>
    rw [hnamed] at hacc
    exact hacc
  | some hash =>
    -- A named transaction would be named by a value.
    rw [hnamed] at hacc
    obtain ⟨_, ⟨_, hvalue⟩, -⟩ := hacc
    cases hvalue

theorem retry_leaves {fits : Except ClientError α → Envelope → Prop} (ha : Submits hashOf fits a)
    (hw : w.Undisturbed) (he : e.isRetryable = true) (h : a.run.run w = (.error e, w')) :
    RetryLeaves e w.node.sent w'.node.sent := by
  obtain ⟨-, hacc⟩ := ha σ w hw
  rw [h] at hacc
  have hnamed : submitted? hashOf (.error e : Except ClientError α) = e.submitted? := rfl
  rw [hnamed] at hacc
  obtain hnone | ⟨hash, rfl⟩ := ClientError.isRetryable_named he
  · rw [hnone] at hacc
    unfold RetryLeaves
    split
    · cases hnone
    · exact hacc
  · obtain ⟨tx, -, hhash, hsent⟩ := hacc
    exact ⟨tx, hhash, hsent⟩

end Action.Submits

/-- A retryable error of a send that does not wait left the node's list as it was, and so did one of a send that
waits, unless it is the end of the wait: then exactly the named transaction was added. -/
theorem retry_accounted {σ : Type} [CheckpointStore σ] (config : Config) (ctx : Context) (request : SendRequest)
    (text : String) (w w' : World SimulatedNode σ) (hw : w.Undisturbed) (e : ClientError) (he : e.isRetryable = true) :
    ((Client.submit config request).run.run w = (.error e, w') → w'.node.sent = w.node.sent) ∧
    ((Client.submitRaw text).run.run w = (.error e, w') → w'.node.sent = w.node.sent) ∧
    ((Client.send config ctx request).run.run w = (.error e, w') → RetryLeaves e w.node.sent w'.node.sent) ∧
    ((Client.sendRaw config ctx text).run.run w = (.error e, w') → RetryLeaves e w.node.sent w'.node.sent) := by
  unfold Client.submit Client.send Client.submitRaw Client.sendRaw
  refine ⟨?_, ?_, ?_, ?_⟩
  · intro h
    exact (sendOnly_isValue config request).error_unchanged hw h
  · intro h
    have hvalue := (sendRawOnly_isValue text).mono fun _ _ h => h.1
    exact hvalue.error_unchanged hw h
  · intro h
    exact (sendAndWait_submits config ctx request).retry_leaves hw he h
  · intro h
    exact (sendRawAndWait_submits config ctx text).retry_leaves hw he h

/-! ## A wait that ends at once -/

/-- A context that is done from the start. -/
def late : Context := ⟨some 0, none⟩

def freshWorld : World SimulatedNode MemoryStore := World.initial .initial 0 .empty

/-- The raw transaction of nine empty strings is submitted, and the wait for it ends before the first question. -/
theorem late_run : ∃ w', (Client.sendRaw .standard late "0xc9808080808080808080").run.run freshWorld =
    (.error (.receiptReadTimeout (Envelope.legacy emptyLegacy).hash), w') ∧ w'.node.sent = [.legacy emptyLegacy] :=
  ⟨_, rfl, rfl⟩

theorem retry_accounted_late :
    freshWorld.Undisturbed ∧ ∃ e w', e.isRetryable = true ∧
      (Client.sendRaw .standard late "0xc9808080808080808080").run.run freshWorld = (.error e, w') ∧
      RetryLeaves e freshWorld.node.sent w'.node.sent := by
  have hw : freshWorld.Undisturbed := by
    intro e he
    cases he
  have hretry : (ClientError.receiptReadTimeout (Envelope.legacy emptyLegacy).hash).isRetryable = true := rfl
  obtain ⟨w', hrun, -⟩ := late_run
  obtain ⟨-, -, -, hleaves⟩ := retry_accounted .standard late ⟨"", "", .native "", .pending⟩
    "0xc9808080808080808080" freshWorld w' hw _ hretry
  exact ⟨hw, _, w', hretry, hrun, hleaves hrun⟩

/-- The error counts as retryable, and the transaction is at the node. -/
theorem late_timeout : ∃ e w', (Client.sendRaw .standard late "0xc9808080808080808080").run.run freshWorld = (.error e, w') ∧
    e.isRetryable = true ∧ w'.node.sent ≠ freshWorld.node.sent := by
  obtain ⟨w', hrun, hsent⟩ := late_run
  refine ⟨_, w', hrun, rfl, ?_⟩
  rw [hsent]
  exact List.cons_ne_nil _ _

end EvmClient
