import EvmClient.Config

/-
Which configurations are accepted.

   A configuration is read from a file or from the environment, or made by the program. Whatever is read has been
   checked; the checks ask nothing of the times of a scan, which only a file states.

   1. `validate_eq_ok_iff` — a configuration is accepted if it passes every check.
   2. `ofFile_validated`, `ofEnvironment_validated` — what is read is accepted.
   3. `validate_scan` — whatever it says about scans. -/
namespace EvmClient.Config

theorem validate_eq_ok_iff {c : Config} : c.validate = .ok () ↔
    (∃ scheme, Url.scheme c.endpoint = .ok scheme ∧ (scheme = "http" ∨ scheme = "https")) ∧ c.nativeDecimals ≤ 77 ∧
      c.chain ≠ 0 ∧ c.chain.toNat ≤ maxChain ∧ c.nativeGasLimit ≠ 0 := by
  unfold validate
  constructor
  · intro h
    split at h
    · cases h
    · rename_i scheme hscheme
      split at h
      · cases h
      split at h
      · cases h
      split at h
      · cases h
      split at h
      · cases h
      rename_i hweb hdecimals hchain hgas
      rw [not_or, Nat.not_lt] at hchain
      refine ⟨⟨scheme, hscheme, ?_⟩, Nat.le_of_not_lt hdecimals, hchain.1, hchain.2, hgas⟩
      by_cases hhttp : scheme = "http"
      · exact .inl hhttp
      · exact .inr (Decidable.not_not.1 fun hhttps => hweb ⟨hhttp, hhttps⟩)
  · rintro ⟨⟨scheme, hscheme, hweb⟩, hdecimals, hzero, hchain, hgas⟩
    have hother : ¬(scheme ≠ "http" ∧ scheme ≠ "https") := fun hother => hweb.elim hother.1 hother.2
    have hrange : ¬(c.chain = 0 ∨ maxChain < c.chain.toNat) := not_or.2 ⟨hzero, Nat.not_lt.2 hchain⟩
    rw [hscheme]
    dsimp only
    rw [if_neg hother, if_neg (Nat.not_lt.2 hdecimals), if_neg hrange, if_neg hgas]

/-- The checks ask nothing of the scans. -/
theorem validate_scan (c : Config) (scan : ScanConfig) : ({ c with scan } : Config).validate = c.validate := rfl

theorem ofFile_validated {path : String} {content : Except String Bytes} {c : Config}
    (h : ofFile path content = .ok c) : c.validate = .ok () := by
  unfold ofFile at h
  dsimp only at h
  split at h
  · cases h
  · split at h
    · cases h
    · split at h
      · cases h
      · rename_i hvalid
        cases h
        exact hvalid

/-- What the environment states is checked, and scans with the standard times. -/
theorem ofEnvironment_validated {env : String → Option String} {c : Config} (h : ofEnvironment env = .ok c) :
    c.validate = .ok () ∧ c.scan = { ScanConfig.standard with startHeight := c.scan.startHeight } := by
  unfold ofEnvironment at h
  -- Whether the network is stated or not, the rest is the same.
  split at h
  all_goals
    simp only [bind_eq_ok_iff] at h
    obtain ⟨network, -, poolSize, -, chain, -, startHeight, -, _, hvalid, hc⟩ := h
    cases hc
    exact ⟨hvalid, rfl⟩

end EvmClient.Config
