import EvmClient.Proofs.RecordFields
import EvmClient.Proofs.WireText
import EvmClient.Wire.Block
import EvmClient.Wire.CallRequest
import EvmClient.Wire.Receipt

/-
Blocks, transactions, receipts, logs and calls survive JSON.

   A record is written field by field and read field by field. For each field the way in which it is read fits the way
   in which it is written, so a record is read back from its JSON whichever of its fields hold a value; and as lists of
   records read back if records do, this goes up to the blocks with their transactions.

   1. `quantity64_readsBack`, `quantity256_readsBack`, `fixed_readsBack`, `bytes_readsBack` — the forms of the fields.
   2. `Log.readsBack`, `Receipt.readsBack`, `Transaction.readsBack`, `Block.readsBack`, `CallRequest.readsBack` — the
      records, field by field.
   3. `records_survive_json` — all of them, as values and as texts. -/
namespace EvmClient
open Json

namespace Wire

theorem quantity64_readsBack : ReadsBack (quantity (w := 64)) (quantity? 64) :=
  ⟨fun v => quantity?_quantity v rfl (by decide), by simp [quantity], fun _ => trivial⟩

theorem quantity256_readsBack : ReadsBack (quantity (w := 256)) (quantity? 256) :=
  ⟨fun v => quantity?_quantity v rfl (by decide), by simp [quantity], fun _ => trivial⟩

theorem fixed_readsBack {n : Nat} : ReadsBack (fixed (n := n)) (fixed? n) :=
  ⟨fixed?_fixed, by simp [fixed], fun _ => trivial⟩

theorem bytes_readsBack : ReadsBack bytes bytes? := ⟨bytes?_bytes, by simp [bytes], fun _ => trivial⟩

end Wire

open Wire

/-! ## Records -/

theorem Log.readsBack : ReadsBack Log.toJson Log.ofJson? where
  back l := by
    refine read_field (fields?_object (by decide) (List.Sublist.refl _)) ?_
    refine read_field (fixed_readsBack.required rfl) ?_
    refine read_field (fixed_readsBack.list.orDefault rfl) ?_
    refine read_field (bytes_readsBack.orDefault rfl) ?_
    refine read_field (quantity64_readsBack.nullable rfl) ?_
    refine read_field (fixed_readsBack.nullable rfl) ?_
    refine read_field (quantity64_readsBack.nullable rfl) ?_
    exact read_field (bool_readsBack.orDefault rfl) rfl
  present l := by simp [Log.toJson]
  plain l := ⟨fixed_readsBack.plain _, fixed_readsBack.list.plain _, bytes_readsBack.plain _,
    quantity64_readsBack.plain_orNull _, fixed_readsBack.plain_orNull _, quantity64_readsBack.plain_orNull _,
    bool_readsBack.plain _, trivial⟩

theorem Receipt.readsBack : ReadsBack Receipt.toJson Receipt.ofJson? where
  back r := by
    refine read_field (fields?_object (by decide) (List.Sublist.refl _)) ?_
    refine read_field (fixed_readsBack.required rfl) ?_
    refine read_field (quantity64_readsBack.orDefault rfl) ?_
    refine read_field (fixed_readsBack.nullable rfl) ?_
    refine read_field (quantity64_readsBack.nullable rfl) ?_
    refine read_field (fixed_readsBack.orDefault rfl) ?_
    refine read_field (fixed_readsBack.nullable rfl) ?_
    refine read_field (quantity256_readsBack.orDefault rfl) ?_
    refine read_field (quantity256_readsBack.nullable rfl) ?_
    refine read_field (fixed_readsBack.nullable rfl) ?_
    refine read_field (Log.readsBack.list.orDefault rfl) ?_
    refine read_field (fixed_readsBack.orDefault rfl) ?_
    exact read_field (quantity64_readsBack.nullable rfl) rfl
  present r := by simp [Receipt.toJson]
  plain r := ⟨fixed_readsBack.plain _, quantity64_readsBack.plain _, fixed_readsBack.plain_orNull _,
    quantity64_readsBack.plain_orNull _, fixed_readsBack.plain _, fixed_readsBack.plain_orNull _,
    quantity256_readsBack.plain _, quantity256_readsBack.plain_orNull _, fixed_readsBack.plain_orNull _,
    Log.readsBack.list.plain _, fixed_readsBack.plain _, quantity64_readsBack.plain_orNull _, trivial⟩

/-- The members that may be left out stand between others. -/
theorem Transaction.readsBack : ReadsBack Transaction.toJson Transaction.ofJson? where
  back t := by
    refine read_field (fields?_object (by decide) ?_) ?_
    · rw [List.map_append, List.map_append, List.map_append]
      exact (((List.Sublist.refl _).append names_memberIfSome).append names_memberIfSome).append (List.Sublist.refl _)
    refine read_field (fixed_readsBack.required rfl) ?_
    refine read_field (quantity256_readsBack.required rfl) ?_
    refine read_field (fixed_readsBack.nullable rfl) ?_
    refine read_field (quantity64_readsBack.nullable rfl) ?_
    refine read_field (quantity64_readsBack.nullable rfl) ?_
    refine read_field (fixed_readsBack.required rfl) ?_
    refine read_field (fixed_readsBack.nullable rfl) ?_
    refine read_field (quantity256_readsBack.required rfl) ?_
    refine read_field (quantity256_readsBack.nullable rfl) ?_
    refine read_field (quantity256_readsBack.required rfl) ?_
    refine read_field (bytes_readsBack.orDefault rfl) ?_
    -- From here on members may be missing in front of a field, so it has to be looked for.
    refine read_field (quantity64_readsBack.omitted (o := t.type) ?_) ?_
    · simp [List.lookup_cons, List.lookup_append, lookup_memberIfSome]
    refine read_field (quantity64_readsBack.omitted (o := t.chain) ?_) ?_
    · simp [List.lookup_cons, List.lookup_append, lookup_memberIfSome]
    refine read_field (quantity64_readsBack.orDefault (a := t.v) ?_) ?_
    · simp [List.lookup_cons, List.lookup_append, lookup_memberIfSome]
    refine read_field (quantity256_readsBack.orDefault (a := t.r) ?_) ?_
    · simp [List.lookup_cons, List.lookup_append, lookup_memberIfSome]
    refine read_field (quantity256_readsBack.orDefault (a := t.s) ?_) rfl
    simp [List.lookup_cons, List.lookup_append, lookup_memberIfSome]
  present t := by simp [Transaction.toJson]
  plain t := by
    refine plainMembers_append (plainMembers_append (plainMembers_append ?_
      (quantity64_readsBack.plain_memberIfSome _ _)) (quantity64_readsBack.plain_memberIfSome _ _)) ?_
    · exact ⟨fixed_readsBack.plain _, quantity256_readsBack.plain _, fixed_readsBack.plain_orNull _,
        quantity64_readsBack.plain_orNull _, quantity64_readsBack.plain_orNull _, fixed_readsBack.plain _,
        fixed_readsBack.plain_orNull _, quantity256_readsBack.plain _, quantity256_readsBack.plain_orNull _,
        quantity256_readsBack.plain _, bytes_readsBack.plain _, trivial⟩
    · exact ⟨quantity64_readsBack.plain _, quantity256_readsBack.plain _, quantity256_readsBack.plain _, trivial⟩

theorem Block.readsBack : ReadsBack Block.toJson Block.ofJson? where
  back b := by
    refine read_field (fields?_object (by decide) ?_) ?_
    · rw [List.map_append, List.map_append]
      exact ((List.Sublist.refl _).append names_memberIfSome).append (List.Sublist.refl _)
    refine read_field (quantity64_readsBack.required rfl) ?_
    refine read_field (fixed_readsBack.required rfl) ?_
    refine read_field (fixed_readsBack.required rfl) ?_
    refine read_field (fixed_readsBack.orDefault rfl) ?_
    refine read_field (quantity256_readsBack.orDefault rfl) ?_
    refine read_field (quantity256_readsBack.orDefault rfl) ?_
    refine read_field (quantity256_readsBack.orDefault rfl) ?_
    refine read_field (quantity256_readsBack.omitted (o := b.baseFee) ?_) ?_
    · simp [List.lookup_cons, List.lookup_append, lookup_memberIfSome]
    refine read_field (Transaction.readsBack.list.orDefault (a := b.transactions) ?_) rfl
    simp [List.lookup_cons, List.lookup_append, lookup_memberIfSome]
  present b := by simp [Block.toJson]
  plain b := by
    refine plainMembers_append (plainMembers_append ?_ (quantity256_readsBack.plain_memberIfSome _ _)) ?_
    · exact ⟨quantity64_readsBack.plain _, fixed_readsBack.plain _, fixed_readsBack.plain _, fixed_readsBack.plain _,
        quantity256_readsBack.plain _, quantity256_readsBack.plain _, quantity256_readsBack.plain _, trivial⟩
    · exact ⟨Transaction.readsBack.list.plain _, trivial⟩

theorem CallRequest.readsBack : ReadsBack CallRequest.toJson CallRequest.ofJson? where
  back c := by
    refine read_field (fields?_object (by decide) ?_) ?_
    · rw [List.map_append, List.map_append, List.map_append, List.map_append, List.map_append]
      exact (((((names_memberIfSome.append (List.Sublist.refl _)).append names_memberIfSome).append
        names_memberIfSome).append names_memberIfSome).append names_memberIfSome)
    refine read_field ((Fields.optional_eq rfl).trans (fixed_readsBack.omitted (o := c.sender) ?_)) ?_
    · simp [List.lookup_cons, List.lookup_append, lookup_memberIfSome]
    refine read_field (fixed_readsBack.required (a := c.target) ?_) ?_
    · simp [List.lookup_append, lookup_memberIfSome]
    refine read_field ((Fields.optional_eq rfl).trans (quantity64_readsBack.omitted (o := c.gas) ?_)) ?_
    · simp [List.lookup_cons, List.lookup_append, lookup_memberIfSome]
    refine read_field ((Fields.optional_eq rfl).trans (quantity256_readsBack.omitted (o := c.gasPrice) ?_)) ?_
    · simp [List.lookup_cons, List.lookup_append, lookup_memberIfSome]
    refine read_field ((Fields.optional_eq rfl).trans (quantity256_readsBack.omitted (o := c.value) ?_)) ?_
    · simp [List.lookup_cons, List.lookup_append, lookup_memberIfSome]
    refine read_field (bytes_readsBack.omitted (o := c.data) ?_) rfl
    simp [List.lookup_cons, List.lookup_append, lookup_memberIfSome]
  present c := by simp [CallRequest.toJson]
  plain c := plainMembers_append (plainMembers_append (plainMembers_append (plainMembers_append (plainMembers_append
    (fixed_readsBack.plain_memberIfSome _ _) ⟨fixed_readsBack.plain _, trivial⟩)
    (quantity64_readsBack.plain_memberIfSome _ _)) (quantity256_readsBack.plain_memberIfSome _ _))
    (quantity256_readsBack.plain_memberIfSome _ _)) (bytes_readsBack.plain_memberIfSome _ _)

/-- Every record is read back from its JSON, and from the text of it: whatever fields hold no value, however many
transactions and logs there are, and however long the byte strings. -/
theorem records_survive_json :
    (∀ b : Block, Block.ofJson? b.toJson = some b ∧ (ofText? b.toJson.text).bind Block.ofJson? = some b) ∧
    (∀ t : Transaction,
      Transaction.ofJson? t.toJson = some t ∧ (ofText? t.toJson.text).bind Transaction.ofJson? = some t) ∧
    (∀ r : Receipt, Receipt.ofJson? r.toJson = some r ∧ (ofText? r.toJson.text).bind Receipt.ofJson? = some r) ∧
    (∀ l : Log, Log.ofJson? l.toJson = some l ∧ (ofText? l.toJson.text).bind Log.ofJson? = some l) ∧
    ∀ c : CallRequest,
      CallRequest.ofJson? c.toJson = some c ∧ (ofText? c.toJson.text).bind CallRequest.ofJson? = some c :=
  ⟨Block.readsBack.survives, Transaction.readsBack.survives, Receipt.readsBack.survives, Log.readsBack.survives,
    CallRequest.readsBack.survives⟩

/-- A call with empty data is not written as one without data. -/
example (c : CallRequest) : { c with data := some [] }.toJson ≠ { c with data := none }.toJson := by
  intro h
  have hsame := congrArg CallRequest.ofJson? h
  rw [CallRequest.readsBack.back, CallRequest.readsBack.back] at hsame
  cases hsame

end EvmClient
