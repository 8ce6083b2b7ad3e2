import EvmClient.Proofs.ConfigChecks
import EvmClient.Proofs.SenderRecovery
import Mathlib

/-
The value `v` of a signature in 64-bit words.

   A `v` that somebody else wrote can be any word, and whoever takes it apart subtracts and multiplies words. A word
   holds no negative number and none from `2 ^ 64` on, so here the same is computed by steps that fail where the exact
   result has no word. None of them fails: the chain and the parity that are read are those of the numbers. Putting
   `v` together fails in words exactly where the number that it should be is too great.

   1. `sum?_eq_some_iff`, `difference?_eq_some_iff`, `product?_eq_some_iff` — a step that does not fail is exact.
   2. `recovery?_eq_some_iff` — what a `v` says: it is 27 or 28, or the number that a chain and a parity make.
   3. `chainInWords?_eq`, `recoveryInWords?_eq`, `vInWords?_eq_some_iff` — the same in words.
   4. `signature_value_exact` — both directions together, and that they undo each other. -/
namespace EvmClient

/-! ## Steps that do not wrap around -/

namespace Word64

/-- The sum, if a word holds it. -/
def sum? (a b : Word64) : Option Word64 := if a.uaddOverflow b then none else some (a + b)

/-- The difference, if it is not negative. -/
def difference? (a b : Word64) : Option Word64 := if a.usubOverflow b then none else some (a - b)

/-- The product, if a word holds it. -/
def product? (a b : Word64) : Option Word64 := if a.umulOverflow b then none else some (a * b)

/-- The parity as a word: zero or one. -/
def ofParity (odd : Bool) : Word64 := BitVec.ofNat 64 odd.toNat

variable {a b c : Word64}

theorem toNat_ofParity (odd : Bool) : (ofParity odd).toNat = odd.toNat := by cases odd <;> rfl

theorem exists_toNat_eq {n : ℕ} (h : n < 2 ^ 64) : ∃ a : Word64, a.toNat = n :=
  ⟨BitVec.ofNat 64 n, by rw [BitVec.toNat_ofNat, Nat.mod_eq_of_lt h]⟩

theorem sum?_eq_some_iff : sum? a b = some c ↔ a.toNat + b.toNat = c.toNat := by
  have hc := c.isLt
  unfold sum?
  split
  · rename_i h
    have hover : 2 ^ 64 ≤ a.toNat + b.toNat := of_decide_eq_true h
    simp only [reduceCtorEq, false_iff]
    omega
  · rename_i h
    rw [Option.some.injEq, ← BitVec.toNat_inj, BitVec.toNat_add_of_not_uaddOverflow h]

theorem difference?_eq_some_iff : difference? a b = some c ↔ a.toNat = b.toNat + c.toNat := by
  unfold difference?
  split
  · rename_i h
    have hover : a.toNat < b.toNat := of_decide_eq_true h
    simp only [reduceCtorEq, false_iff]
    omega
  · rename_i h
    have hle : ¬a.toNat < b.toNat := fun hlt => h (decide_eq_true hlt)
    rw [Option.some.injEq, ← BitVec.toNat_inj, BitVec.toNat_sub_of_not_usubOverflow h]
    omega

theorem product?_eq_some_iff : product? a b = some c ↔ a.toNat * b.toNat = c.toNat := by
  have hc := c.isLt
  unfold product?
  split
  · rename_i h
    have hover : 2 ^ 64 ≤ a.toNat * b.toNat := of_decide_eq_true h
    simp only [reduceCtorEq, false_iff]
    omega
  · rename_i h
    rw [Option.some.injEq, ← BitVec.toNat_inj, BitVec.toNat_mul_of_not_umulOverflow h]

end Word64

/-! ## Taking apart and putting together, in words -/

/-- The chain that `v` names, by steps in words; there is no answer where one of them fails. -/
def ChainSignature.chainInWords? (sig : ChainSignature) : Option (Option Word64) :=
  if sig.v.toNat = 27 ∨ sig.v.toNat = 28 then some none
  else if 35 ≤ sig.v.toNat then do
    let above ← Word64.difference? sig.v 35
    return some (above / 2)
  else some none

/-- The digest that was signed and the parity, by steps in words; there is no answer where one of them fails. -/
def Legacy.recoveryInWords? (t : Legacy) : Option (Option (Hash × Word64)) := do
  match ← t.signature.chainInWords? with
  | some chain =>
    let above ← Word64.difference? t.signature.v 35
    let doubled ← Word64.product? chain 2
    let parity ← Word64.difference? above doubled
    return some (t.draft.signingHash chain, parity)
  | none =>
    if t.signature.v.toNat = 27 ∨ t.signature.v.toNat = 28 then do
      let parity ← Word64.difference? t.signature.v 27
      return some (t.draft.plainHash, parity)
    else return none

/-- The value `v` for a parity and a chain, by steps in words. -/
def ChainSignature.vInWords? (odd : Bool) (chain : Word64) : Option Word64 := do
  let doubled ← Word64.product? chain 2
  let lowest ← Word64.sum? 35 (Word64.ofParity odd)
  Word64.sum? doubled lowest

/-! ## What a `v` says -/

section
variable {t : Legacy} {chain : Word64} {digest : Hash} {odd : Bool}

theorem Legacy.chain?_eq_some_iff :
    t.chain? = some chain ↔ ∃ odd : Bool, t.signature.v.toNat = 35 + chain.toNat * 2 + odd.toNat := by
  constructor
  · intro h
    rw [Legacy.chain?, ChainSignature.chain?] at h
    split at h
    · cases h
      have hv := t.signature.v.isLt
      refine ⟨decide ((t.signature.v.toNat - 35) % 2 = 1), ?_⟩
      rw [BitVec.toNat_ofNat, Nat.mod_eq_of_lt (by omega)]
      by_cases hodd : (t.signature.v.toNat - 35) % 2 = 1
      · simp only [hodd, decide_true, Bool.toNat_true]
        omega
      · simp only [hodd, decide_false, Bool.toNat_false]
        omega
    · cases h
  · rintro ⟨odd, hv⟩
    exact Legacy.chain?_of_v hv

theorem Legacy.chain?_eq_none_iff : t.chain? = none ↔ t.signature.v.toNat < 35 := by
  rw [Legacy.chain?, ChainSignature.chain?]
  split
  · simp only [reduceCtorEq, false_iff]
    omega
  · simp only [true_iff]
    omega

/-- Without a chain the parity is that of the values 27 and 28. -/
theorem Legacy.recovery?_of_plain (h : t.signature.v.toNat = 27 + odd.toNat) :
    t.recovery? = some (t.draft.plainHash, odd) := by
  have hodd : odd.toNat ≤ 1 := Bool.toNat_le odd
  have hparity : (t.signature.v.toNat == 28) = odd := by
    rw [h]
    cases odd <;> rfl
  have hchain : t.chain? = none := Legacy.chain?_eq_none_iff.2 (by omega)
  simp only [Legacy.recovery?, hchain, hparity]
  exact if_pos (by omega)

/-- There is something to recover from 27 and 28, and from every number that a chain and a parity make. -/
theorem Legacy.recovery?_eq_some_iff : t.recovery? = some (digest, odd) ↔
    t.chain? = none ∧ t.signature.v.toNat = 27 + odd.toNat ∧ digest = t.draft.plainHash ∨
      ∃ chain, t.chain? = some chain ∧ t.signature.v.toNat = 35 + 2 * chain.toNat + odd.toNat ∧
        digest = t.draft.signingHash chain := by
  constructor
  · intro h
    cases hchain : t.chain? with
    | none =>
      simp only [Legacy.recovery?, hchain] at h
      split at h
      · rename_i hplain
        cases h
        refine .inl ⟨rfl, ?_, rfl⟩
        rcases hplain with hv | hv
        · simp [hv]
        · simp [hv]
      · cases h
    | some chain =>
      obtain ⟨parity, hv⟩ := Legacy.chain?_eq_some_iff.1 hchain
      rw [Legacy.recovery?_of_v hv] at h
      cases h
      exact .inr ⟨chain, rfl, by omega, rfl⟩
  · rintro (⟨-, hv, rfl⟩ | ⟨chain, -, hv, rfl⟩)
    · exact Legacy.recovery?_of_plain hv
    · exact Legacy.recovery?_of_v (by omega)

theorem Legacy.recovery?_isSome_iff : t.recovery?.isSome = true ↔
    t.signature.v.toNat = 27 ∨ t.signature.v.toNat = 28 ∨ 35 ≤ t.signature.v.toNat := by
  rw [Option.isSome_iff_exists, Prod.exists]
  constructor
  · rintro ⟨digest, odd, h⟩
    have hodd : odd.toNat ≤ 1 := Bool.toNat_le odd
    rcases Legacy.recovery?_eq_some_iff.1 h with ⟨-, hv, -⟩ | ⟨chain, -, hv, -⟩
    · omega
    · omega
  · rintro (hv | hv | hv)
    · exact ⟨_, false, Legacy.recovery?_of_plain hv⟩
    · exact ⟨_, true, Legacy.recovery?_of_plain hv⟩
    · cases hchain : t.chain? with
      | none => exact absurd (Legacy.chain?_eq_none_iff.1 hchain) (by omega)
      | some chain =>
        obtain ⟨odd, hv⟩ := Legacy.chain?_eq_some_iff.1 hchain
        exact ⟨_, odd, Legacy.recovery?_of_v hv⟩

end

/-! ## The same in words -/

/-- What is above 35 in a `v` that names a chain. -/
theorem Legacy.exists_above {t : Legacy} {chain : Word64} {odd : Bool}
    (hv : t.signature.v.toNat = 35 + chain.toNat * 2 + odd.toNat) :
    ∃ above : Word64, above.toNat = chain.toNat * 2 + odd.toNat ∧ Word64.difference? t.signature.v 35 = some above := by
  have hsize := t.signature.v.isLt
  have h35 : (35 : Word64).toNat = 35 := rfl
  obtain ⟨above, habove⟩ := Word64.exists_toNat_eq (n := chain.toNat * 2 + odd.toNat) (by omega)
  exact ⟨above, habove, Word64.difference?_eq_some_iff.2 (by omega)⟩

theorem Legacy.chainInWords?_eq (t : Legacy) : t.signature.chainInWords? = some t.chain? := by
  unfold ChainSignature.chainInWords?
  cases hchain : t.chain? with
  | none =>
    have hlow := Legacy.chain?_eq_none_iff.1 hchain
    rw [if_neg (Nat.not_le.2 hlow), ite_self]
  | some chain =>
    obtain ⟨odd, hv⟩ := Legacy.chain?_eq_some_iff.1 hchain
    have hodd : odd.toNat ≤ 1 := Bool.toNat_le odd
    obtain ⟨above, habove, hdifference⟩ := Legacy.exists_above hv
    have hhalf : above / 2 = chain := by
      have h2 : (2 : Word64).toNat = 2 := rfl
      rw [← BitVec.toNat_inj, BitVec.toNat_udiv, habove, h2]
      omega
    rw [if_neg (by omega), if_pos (by omega), hdifference, Option.bind_eq_bind, Option.bind_some, hhalf]
    rfl

theorem Legacy.recoveryInWords?_eq (t : Legacy) : t.recoveryInWords? =
    some (t.recovery?.map fun (digest, odd) => (digest, Word64.ofParity odd)) := by
  unfold Legacy.recoveryInWords?
  rw [Legacy.chainInWords?_eq, Option.bind_eq_bind, Option.bind_some]
  cases hchain : t.chain? with
  | none =>
    have hlow := Legacy.chain?_eq_none_iff.1 hchain
    dsimp only
    split
    · rename_i hplain
      obtain ⟨odd, hv⟩ : ∃ odd : Bool, t.signature.v.toNat = 27 + odd.toNat :=
        hplain.elim (fun h => ⟨false, h⟩) fun h => ⟨true, h⟩
      have hparity : Word64.difference? t.signature.v 27 = some (Word64.ofParity odd) := by
        rw [Word64.difference?_eq_some_iff, Word64.toNat_ofParity]
        exact hv
      rw [hparity, Legacy.recovery?_of_plain hv]
      rfl
    · rename_i hplain
      have hnone : t.recovery? = none := by
        rw [← Option.not_isSome_iff_eq_none, Legacy.recovery?_isSome_iff]
        omega
      rw [hnone]
      rfl
  | some chain =>
    obtain ⟨odd, hv⟩ := Legacy.chain?_eq_some_iff.1 hchain
    have hsize := t.signature.v.isLt
    obtain ⟨above, habove, hdifference⟩ := Legacy.exists_above hv
    obtain ⟨doubled, hdoubled⟩ := Word64.exists_toNat_eq (n := chain.toNat * 2) (by omega)
    have hproduct : Word64.product? chain 2 = some doubled := Word64.product?_eq_some_iff.2 hdoubled.symm
    have hparity : Word64.difference? above doubled = some (Word64.ofParity odd) := by
      rw [Word64.difference?_eq_some_iff, Word64.toNat_ofParity, habove, hdoubled]
    dsimp only
    rw [hdifference, hproduct, Legacy.recovery?_of_v hv]
    dsimp only [Option.bind_eq_bind, Option.bind_some]
    rw [hparity]
    rfl

/-- Putting `v` together fails in words exactly where there is none. -/
theorem ChainSignature.vInWords?_eq_some_iff {odd : Bool} {chain v : Word64} :
    vInWords? odd chain = some v ↔ vFor odd chain = .ok v := by
  have h2 : (2 : Word64).toNat = 2 := rfl
  have h35 : (35 : Word64).toNat = 35 := rfl
  have hodd : odd.toNat ≤ 1 := Bool.toNat_le odd
  rw [vFor_eq_ok_iff]
  simp only [vInWords?, Option.bind_eq_bind, Option.bind_eq_some_iff, Word64.product?_eq_some_iff,
    Word64.sum?_eq_some_iff, Word64.toNat_ofParity, h2, h35]
  constructor
  · rintro ⟨doubled, hdoubled, lowest, hlowest, hv⟩
    omega
  · intro hv
    have hsize := v.isLt
    obtain ⟨doubled, hdoubled⟩ := Word64.exists_toNat_eq (n := chain.toNat * 2) (by omega)
    obtain ⟨lowest, hlowest⟩ := Word64.exists_toNat_eq (n := 35 + odd.toNat) (by omega)
    exact ⟨doubled, hdoubled.symm, lowest, hlowest.symm, by omega⟩

theorem ChainSignature.exists_vFor_iff {odd : Bool} {chain : Word64} :
    (∃ v, vFor odd chain = .ok v) ↔ 2 * chain.toNat + 35 + odd.toNat < 2 ^ 64 := by
  simp only [vFor_eq_ok_iff]
  constructor
  · rintro ⟨v, hv⟩
    have hsize := v.isLt
    omega
  · intro hfits
    exact Word64.exists_toNat_eq (by omega)

/-- The greatest chain that a configuration may name is the greatest one for which there is a `v` for both parities. -/
theorem ChainSignature.forall_exists_vFor_iff {chain : Word64} :
    (∀ odd, ∃ v, vFor odd chain = .ok v) ↔ chain.toNat ≤ Config.maxChain := by
  constructor
  · intro h
    have hfits := exists_vFor_iff.1 (h true)
    have hmax : 2 * (Config.maxChain + 1) + 36 = 2 ^ 64 := by decide
    have hone : true.toNat = 1 := rfl
    omega
  · intro h odd
    obtain ⟨v, hv, -⟩ := vFor_fits odd h
    exact ⟨v, hv⟩

/-- Every `v` is taken apart as the numbers are, and no step of it leaves the words: there is something to recover if
`v` is 27, 28 or at least 35, and it is the parity with the digest of the six fields, or with that for the chain `c` of
`v = 35 + 2 * c + parity`. The other way round `v` is put together, without leaving the words, if this number is below
`2 ^ 64`, as it is for every chain of an accepted configuration and for no greater chain with both parities, and the
chain and the parity are then read back. -/
theorem signature_value_exact :
    (∀ t : Legacy,
      (t.recovery?.isSome = true ↔
        t.signature.v.toNat = 27 ∨ t.signature.v.toNat = 28 ∨ 35 ≤ t.signature.v.toNat) ∧
      (∀ digest odd, t.recovery? = some (digest, odd) ↔
        t.chain? = none ∧ t.signature.v.toNat = 27 + odd.toNat ∧ digest = t.draft.plainHash ∨
          ∃ chain, t.chain? = some chain ∧ t.signature.v.toNat = 35 + 2 * chain.toNat + odd.toNat ∧
            digest = t.draft.signingHash chain) ∧
      t.signature.chainInWords? = some t.chain? ∧
      t.recoveryInWords? = some (t.recovery?.map fun (digest, odd) => (digest, Word64.ofParity odd))) ∧
    (∀ (odd : Bool) (chain : Word64),
      ((∃ v, ChainSignature.vFor odd chain = .ok v) ↔ 2 * chain.toNat + 35 + odd.toNat < 2 ^ 64) ∧
      ∀ v, ChainSignature.vFor odd chain = .ok v →
        ChainSignature.vInWords? odd chain = some v ∧
          ∀ (d : Draft) (r s : Word256), (d.signed ⟨v, r, s⟩).chain? = some chain ∧
            (d.signed ⟨v, r, s⟩).recovery? = some (d.signingHash chain, odd)) ∧
    (∀ chain : Word64, (∀ odd, ∃ v, ChainSignature.vFor odd chain = .ok v) ↔ chain.toNat ≤ Config.maxChain) ∧
    ∀ c : Config, c.validate = .ok () → ∀ odd, ∃ v, ChainSignature.vFor odd c.chain = .ok v := by
  refine ⟨fun t => ?_, fun odd chain => ⟨ChainSignature.exists_vFor_iff, fun v hv => ?_⟩,
    fun chain => ChainSignature.forall_exists_vFor_iff, fun c hvalid => ?_⟩
  · exact ⟨Legacy.recovery?_isSome_iff, fun _ _ => Legacy.recovery?_eq_some_iff, t.chainInWords?_eq,
      t.recoveryInWords?_eq⟩
  · have hnumber := ChainSignature.vFor_eq_ok_iff.1 hv
    refine ⟨ChainSignature.vInWords?_eq_some_iff.2 hv, fun d r s => ⟨?_, ?_⟩⟩
    · exact Legacy.chain?_of_v hnumber
    · exact Legacy.recovery?_of_v hnumber
  · obtain ⟨-, -, -, hchain, -⟩ := Config.validate_eq_ok_iff.1 hvalid
    exact ChainSignature.forall_exists_vFor_iff.2 hchain

/-- The configuration of a node on the same machine, for the greatest chain. -/
def greatestChain : Config :=
  { Config.standard with endpoint := "http://[::1]:8545", chain := BitVec.ofNat 64 Config.maxChain }

/-- For the greatest chain `v` is one below the greatest word, and it is read back; for the next one there is a `v` for
one parity only. -/
theorem signature_value_exact_greatest :
    greatestChain.validate = .ok () ∧
      (∀ odd, ∃ v, ChainSignature.vFor odd greatestChain.chain = .ok v) ∧
      ChainSignature.vFor true greatestChain.chain = .ok 0xfffffffffffffffe ∧
      (emptyCreation.signed ⟨0xfffffffffffffffe, 1, 1⟩).recovery? =
        some (emptyCreation.signingHash greatestChain.chain, true) ∧
      (∃ v, ChainSignature.vFor false (greatestChain.chain + 1) = .ok v) ∧
      ¬∃ v, ChainSignature.vFor true (greatestChain.chain + 1) = .ok v := by
  obtain ⟨-, hput, -, haccepted⟩ := signature_value_exact
  have hvalid : greatestChain.validate = .ok () := by
    refine Config.validate_eq_ok_iff.2 ⟨⟨"http", ?_, .inl rfl⟩, by decide, by decide +kernel, by decide +kernel, by decide⟩
    cbv
  have hv : ChainSignature.vFor true greatestChain.chain = .ok 0xfffffffffffffffe :=
    ChainSignature.vFor_eq_ok_iff.2 (by decide +kernel)
  have hnext : (greatestChain.chain + 1).toNat = 2 ^ 63 - 18 := by decide +kernel
  have hread := ((hput true greatestChain.chain).2 _ hv).2 emptyCreation 1 1
  refine ⟨hvalid, haccepted greatestChain hvalid, hv, hread.2, ?_, ?_⟩
  · rw [(hput false _).1, hnext]
    decide
  · rw [(hput true _).1, hnext]
    decide

end EvmClient
