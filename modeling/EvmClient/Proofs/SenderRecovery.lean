import EvmClient.Config
import EvmClient.Proofs.RawForms
import EvmClient.Signer

/-
Who signed a transaction.

   A signature's value `v` carries the chain and the parity. Whoever reads the transaction takes the chain
   out of `v` again, rebuilds the digest that was signed from the fields and that chain, and recovers the
   signer's key from the digest and the signature.

   1. `sign?_low` — a signature lies in the range that recovery asks for, in low form.
   2. `vFor_eq_ok_iff`, `vFor_fits` — `v` is the number that a parity and a chain make, which up to the greatest chain
      fits in 64 bits; `chain?_of_v`, `recovery?_of_v` — the chain, the digest and the parity are read out of it.
   3. `signer_recovered` — a transaction that is signed, written, and read again names its signer.

   What the curve does for this is taken as `Ecdsa.Recovers`: the key signs the digest, and is recovered from
   the two. -/
namespace EvmClient

/-! ## The curve -/

namespace Ecdsa

/-- The digest can be signed with the key, and the key's public half is recovered from the signature. -/
def Recovers (key : PrivateKey) (digest : Hash) : Prop :=
  ∃ sig, sign? key digest = some sig ∧ recover? digest sig = key.publicKey?

theorem halfOrder_lt : halfOrder < Secp256k1.n := by decide

theorem toNat_scalar {k : Nat} (h : k < Secp256k1.n) : (BitVec.ofNat 256 k).toNat = k := by
  have hsize : Secp256k1.n < Word256.size := by decide
  rw [BitVec.toNat_ofNat]
  exact Nat.mod_eq_of_lt (Nat.lt_trans h hsize)

section
variable {k : Nat}

theorem lowForm_pos (h : k ≠ 0) (hk : k < Secp256k1.n) :
    0 < if decide (halfOrder < k) then Secp256k1.n - k else k := by
  split
  · exact Nat.sub_pos_of_lt hk
  · exact Nat.pos_of_ne_zero h

theorem lowForm_le (hk : k < Secp256k1.n) :
    (if decide (halfOrder < k) then Secp256k1.n - k else k) ≤ halfOrder := by
  have hhalf : Secp256k1.n ≤ 2 * halfOrder + 1 := by decide
  split
  · rename_i h
    have hhigh : halfOrder < k := of_decide_eq_true h
    omega
  · rename_i h
    have hlow : ¬halfOrder < k := fun hhigh => h (decide_eq_true hhigh)
    omega

end

/-- A signature's scalars are not zero and below the group order, the second one at most half of it. -/
theorem sign?_low {key : PrivateKey} {digest : Hash} {sig : Signature} (h : sign? key digest = some sig) :
    0 < sig.r.toNat ∧ sig.r.toNat < Secp256k1.n ∧ 0 < sig.s.toNat ∧ sig.s.toNat ≤ halfOrder := by
  simp only [sign?, Option.bind_eq_bind, Option.bind_eq_some_iff] at h
  obtain ⟨k, -, point, -, h⟩ := h
  split at h
  · cases h
  · rename_i hzero
    cases h
    have hpos : 0 < Secp256k1.n := by decide
    have hr := Nat.mod_lt point.1 hpos
    have hs := Nat.mod_lt (Secp256k1.inverse Secp256k1.n k *
      ((digest.toNat % Secp256k1.n + point.1 % Secp256k1.n * key.scalar) % Secp256k1.n)) hpos
    obtain ⟨hr0, hs0⟩ := not_or.1 hzero
    -- The second scalar is replaced by its negative where it is above half the order.
    rw [toNat_scalar hr, toNat_scalar (Nat.lt_of_le_of_lt (lowForm_le hs) halfOrder_lt)]
    exact ⟨Nat.pos_of_ne_zero hr0, hr, lowForm_pos hs0 hs, lowForm_le hs⟩

theorem sign?_inRange {key : PrivateKey} {digest : Hash} {sig : Signature} (h : sign? key digest = some sig) :
    sig.inRange = true := by
  obtain ⟨hr, hrn, hs, hlow⟩ := sign?_low h
  have hsn : sig.s.toNat < Secp256k1.n := Nat.lt_of_le_of_lt hlow halfOrder_lt
  simp only [Signature.inRange, Bool.and_eq_true, decide_eq_true_eq]
  exact ⟨⟨⟨hr, hrn⟩, hs⟩, hsn⟩

end Ecdsa

/-! ## The value `v` -/

/-- A word is the value for a parity and a chain if it is the number that the two make. -/
theorem ChainSignature.vFor_eq_ok_iff {odd : Bool} {chain v : Word64} :
    vFor odd chain = .ok v ↔ v.toNat = 35 + chain.toNat * 2 + odd.toNat := by
  have hparity : (if odd then 1 else 0) = odd.toNat := by cases odd <;> rfl
  have hnumber : chain.toNat * 2 + 35 + odd.toNat = 35 + chain.toNat * 2 + odd.toNat := by omega
  rw [vFor, hparity, hnumber]
  split
  · rename_i hfits
    rw [Except.ok.injEq, ← BitVec.toNat_inj, BitVec.toNat_ofNat, Nat.mod_eq_of_lt hfits]
    exact eq_comm
  · rename_i hgreat
    constructor
    · intro h
      cases h
    · intro h
      exact absurd (h ▸ v.isLt) hgreat

/-- Up to the greatest chain the value for it fits in 64 bits. -/
theorem ChainSignature.vFor_fits (odd : Bool) {chain : Word64} (h : chain.toNat ≤ Config.maxChain) :
    ∃ v, vFor odd chain = .ok v ∧ v.toNat = 35 + chain.toNat * 2 + odd.toNat := by
  have hmax : 35 + Config.maxChain * 2 + 1 < UInt64.size := by decide
  have hodd : odd.toNat ≤ 1 := Bool.toNat_le odd
  have hfits : 35 + chain.toNat * 2 + odd.toNat < UInt64.size := by omega
  have hv : (BitVec.ofNat 64 (35 + chain.toNat * 2 + odd.toNat)).toNat = 35 + chain.toNat * 2 + odd.toNat := by
    rw [BitVec.toNat_ofNat]
    exact Nat.mod_eq_of_lt hfits
  exact ⟨_, vFor_eq_ok_iff.2 hv, hv⟩

section
variable {t : Legacy} {chain : Word64} {odd : Bool}

theorem Legacy.chain?_of_v (h : t.signature.v.toNat = 35 + chain.toNat * 2 + odd.toNat) : t.chain? = some chain := by
  have hodd : odd.toNat ≤ 1 := Bool.toNat_le odd
  have hchain : (t.signature.v.toNat - 35) / 2 = chain.toNat := by omega
  rw [Legacy.chain?, ChainSignature.chain?, if_pos (by omega), hchain, BitVec.ofNat_toNat, BitVec.setWidth_eq]

/-- The digest for the chain in `v`, and the parity, are what was signed. -/
theorem Legacy.recovery?_of_v (h : t.signature.v.toNat = 35 + chain.toNat * 2 + odd.toNat) :
    t.recovery? = some (t.draft.signingHash chain, odd) := by
  have hparity : (t.signature.v.toNat - 35 - chain.toNat * 2 == 1) = odd := by
    have hsub : t.signature.v.toNat - 35 - chain.toNat * 2 = odd.toNat := by omega
    rw [hsub]
    cases odd <;> rfl
  simp only [Legacy.recovery?, Legacy.chain?_of_v h, hparity]

end

/-! ## The signer -/

theorem Legacy.signatureParts?_of_v {t : Legacy} {chain : Word64} {odd : Bool}
    (hv : t.signature.v.toNat = 35 + chain.toNat * 2 + odd.toNat) :
    (Envelope.legacy t).signatureParts? =
      some ⟨t.draft.signingHash chain, odd, t.signature.r, t.signature.s⟩ := by
  rw [Envelope.signatureParts?, Legacy.recovery?_of_v hv]
  rfl

/-- The sender is the address of the key that is recovered from the rebuilt digest. -/
theorem Legacy.sender?_of_v {t : Legacy} {chain : Word64} {odd : Bool} {key : Ecdsa.PublicKey}
    (hv : t.signature.v.toNat = 35 + chain.toNat * 2 + odd.toNat)
    (hrange : Ecdsa.Signature.inRange ⟨t.signature.r, t.signature.s, odd⟩ = true)
    (hkey : Ecdsa.recover? (t.draft.signingHash chain) ⟨t.signature.r, t.signature.s, odd⟩ = some key) :
    (Envelope.legacy t).sender? = .ok key.address := by
  simp only [Envelope.sender?, Legacy.signatureParts?_of_v hv, hrange, if_true, hkey]
  rfl

/-- A transaction that is signed, written and read again names its chain, the digest that was signed, and its
signer. No byte string in memory is as long as the bound on the data. -/
theorem signer_recovered {key : Ecdsa.PrivateKey} {s : Signer} {tx : Draft} {chain : Word64}
    (hs : Signer.ofKey? key = some s) (hchain : chain.toNat ≤ Config.maxChain)
    (hdata : tx.data.length < UInt64.size / 2) (hcurve : Ecdsa.Recovers key (tx.signingHash chain)) :
    ∃ t, s.sign tx chain = .ok t ∧ Envelope.ofRaw? t.raw = .ok (.legacy t) ∧ t.chain? = some chain ∧
      (∃ parts, (Envelope.legacy t).signatureParts? = some parts ∧ parts.digest = tx.signingHash chain) ∧
      (Envelope.legacy t).sender? = .ok s.address := by
  obtain ⟨q, hq, rfl⟩ := Option.map_eq_some_iff.1 hs
  obtain ⟨sig, hsig, hkey⟩ := hcurve
  obtain ⟨v, hvFor, hv⟩ := ChainSignature.vFor_fits sig.odd hchain
  have hsigned : Signer.sign ⟨key, q.address⟩ tx chain = .ok (tx.signed ⟨v, sig.r, sig.s⟩) := by
    rw [Signer.sign, hsig, Signer.affix, hvFor]
  -- The data is far enough below the limit for the headers and the other fields.
  have hlen : (tx.signed ⟨v, sig.r, sig.s⟩).raw.length < UInt64.size := by
    have hle := (tx.signed ⟨v, sig.r, sig.s⟩).length_raw_le
    have hsize : UInt64.size / 2 + 262 < UInt64.size := by decide
    have hdraft : (tx.signed ⟨v, sig.r, sig.s⟩).draft = tx := rfl
    rw [hdraft] at hle
    omega
  refine ⟨_, hsigned, Envelope.ofRaw?_legacy hlen, Legacy.chain?_of_v hv, ?_, ?_⟩
  · exact ⟨_, Legacy.signatureParts?_of_v hv, rfl⟩
  · exact Legacy.sender?_of_v hv (Ecdsa.sign?_inRange hsig) (hkey.trans hq)

namespace Signer

/-- The public half of the key three. -/
def thirdPublic : Ecdsa.PublicKey :=
  ⟨0xf9308a019258c31049344f85f89d5229b531c845836f99b08601f113bce036f9,
   0x388f7b0f632de8140fe337e62a37f3566500a99934c2231b6cb9fd7584b8e672⟩

def third : Signer := ⟨⟨3, by decide, by decide⟩, thirdPublic.address⟩

theorem third_publicKey : third.key.publicKey? = some thirdPublic := by decide +kernel

end Signer

/-- The creation of an empty contract. -/
def emptyCreation : Draft := ⟨0, 1, 21000, none, 0, []⟩

theorem emptyCreation_digest : emptyCreation.signingHash 1 =
    FixedBytes.ofNat 32 0x9d9c91f2e04a2fb7445ac9896678c4992194a381d20114f3cccc1ad6678205fd := by
  decide +kernel

theorem third_recovers : Ecdsa.Recovers Signer.third.key (emptyCreation.signingHash 1) := by
  rw [emptyCreation_digest, Ecdsa.Recovers, Signer.third_publicKey]
  refine ⟨⟨0xe8cdafe8142cce053bf7f79f18a86c0820b0d878b3fbba5a16f84ad5fb9bcd2f,
    0x67527ecd849c8f90278800b1cf80789d70da8b14eaf7e4dd1093c1e552edda2e, true⟩, ?_, ?_⟩
  · decide +kernel
  · decide +kernel

theorem signer_recovered_third :
    Signer.ofKey? Signer.third.key = some Signer.third ∧
      ∃ t, Signer.third.sign emptyCreation 1 = .ok t ∧ (Envelope.legacy t).sender? = .ok Signer.third.address := by
  have hsigner : Signer.ofKey? Signer.third.key = some Signer.third := by
    rw [Signer.ofKey?, Signer.third_publicKey]
    rfl
  obtain ⟨t, hsign, -, -, -, hsender⟩ :=
    signer_recovered hsigner (by decide) (by decide) third_recovers
  exact ⟨hsigner, t, hsign, hsender⟩

end EvmClient
