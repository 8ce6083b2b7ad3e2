import EvmClient.Envelope.Legacy
import EvmClient.Proofs.Framing

/-
How the fields of a transaction are written and read.

   A field is one whole item, and each reader accepts exactly the items that its writer produces: numbers
   without leading zeros, byte strings of a fixed length, recipients that may be missing. So a value has one
   written form, and an item at most one value.

   1. `string?_eq_ok_iff` — strings, whose headers have to be the shortest.
   2. `quantity?_eq_ok_iff`, `word64?_eq_ok_iff`, `fixed?_eq_ok_iff`, `recipient?_eq_ok_iff` — the fields. -/
namespace EvmClient.Rlp

/-! ## Strings -/

theorem string?_string (b : Bytes) : string? (string b) = .ok b := by
  obtain ⟨x, hx, rfl, hs⟩ | ⟨hb, hs⟩ := string_cases b
  · rw [hs]
    simp only [string?]
    rw [if_pos (by omega)]
  · rw [hs]
    by_cases hshort : b.length ≤ 55
    · have hx : (UInt8.ofNat (0x80 + b.length)).toNat = 0x80 + b.length := by
        rw [UInt8.toNat_ofNat']
        omega
      simp only [header, if_pos hshort, List.cons_append, List.nil_append, string?, hx]
      rw [if_neg (by omega), if_pos (by omega), if_neg]
      -- A string of one byte that needs a header is not below 80.
      rintro ⟨hlen, hsmall⟩
      obtain ⟨y, rfl⟩ := List.length_eq_one_iff.1 (show b.length = 1 by omega)
      have hy := hb y rfl
      simp only [List.headD_cons] at hsmall
      omega
    · have hk := Bytes.length_minimal_le 8 b.length
      have hx : (UInt8.ofNat (0x80 + 55 + (Bytes.minimal 8 b.length).length)).toNat =
          0x80 + 55 + (Bytes.minimal 8 b.length).length := by
        rw [UInt8.toNat_ofNat']
        omega
      simp only [header, if_neg hshort, List.cons_append, string?, hx]
      -- The size has at most eight bytes; it is empty only where it does not fit.
      by_cases hpos : (Bytes.minimal 8 b.length).length = 0
      · rw [if_neg (by omega), if_pos (by omega), if_neg (by omega), List.eq_nil_of_length_eq_zero hpos,
          List.nil_append]
      · rw [if_neg (by omega), if_neg (by omega), if_pos (by omega)]
        rw [show 0x80 + 55 + (Bytes.minimal 8 b.length).length - 0xb7 = (Bytes.minimal 8 b.length).length by omega,
          List.drop_left']
        rfl

/-- A string is refused unless it has the shortest header. -/
theorem string_of_string? {item b : Bytes} (hw : Whole item) (h : string? item = .ok b) : item = string b := by
  obtain ⟨e, ha, ht⟩ := whole_iff.1 hw
  cases item with
  | nil => cases h
  | cons x rest =>
    rw [List.length_cons, Extent.total] at ht
    simp only [string?] at h
    split at h
    · -- A small byte stands for itself.
      rename_i hx
      cases h
      simp only [announced, if_pos hx] at ha
      cases ha
      dsimp only at ht
      have hrest : rest = [] := List.eq_nil_of_length_eq_zero (by omega)
      have hlt : x < 0x80 := by
        rw [UInt8.lt_iff_toNat_lt]
        exact Nat.lt_succ_of_le hx
      rw [hrest, string, if_pos hlt]
    · rename_i hx
      have hmark : ∀ {n}, x.toNat ≤ n → n ≤ 0xbf → markOf x = 0x80 := by
        intro n hle hn
        apply if_pos
        rw [UInt8.lt_iff_toNat_lt]
        exact Nat.lt_of_le_of_lt (Nat.le_trans hle hn) (by decide)
      obtain ⟨hhead, -⟩ := header_of_announced (show 0x80 ≤ x.toNat by omega) ha
      -- In both forms the string is what stands behind the header.
      have hbehind : ∀ b' : Bytes, markOf x = 0x80 → b' = (x :: rest).drop e.header →
          (∀ y, b' = [y] → 0x80 ≤ y.toNat) → x :: rest = string b' := by
        intro b' hm hb' hsmall
        have hlen : b'.length = e.content := by
          rw [hb', List.length_drop, List.length_cons]
          omega
        obtain ⟨y, hy, hby, -⟩ | ⟨-, hs⟩ := string_cases b'
        · have := hsmall y hby
          omega
        · rw [hs, hlen, ← hm, hhead, hb', List.take_append_drop]
      simp only [announced, if_neg hx] at ha
      split at h
      · rename_i hb7
        rw [if_pos hb7] at ha
        split at h
        · cases h
        · rename_i hsmall
          cases h
          cases ha
          refine hbehind _ (hmark hb7 (by omega)) rfl ?_
          rintro y rfl
          simp only [List.length_singleton] at ht
          simp only [List.headD_cons, not_and, Nat.not_lt] at hsmall
          exact hsmall (by omega)
      · rename_i hb7
        split at h
        · rename_i hbf
          rw [if_neg hb7, if_pos hbf] at ha
          obtain ⟨hheader, -, -, h55, -⟩ := longExtent_minimal (by omega) ha
          have hb : rest.drop (x.toNat - 0xb7) = b := Except.ok.inj h
          refine hbehind b (hmark hbf (by omega)) ?_ ?_
          · rw [hheader, Nat.add_comm, List.drop_succ_cons, hb]
          · intro y hy
            have hlen := congrArg List.length (hb.trans hy)
            rw [List.length_drop, List.length_singleton] at hlen
            omega
        · cases h

theorem string?_eq_ok_iff {item b : Bytes} (hw : Whole item) : string? item = .ok b ↔ item = string b := by
  constructor
  · exact string_of_string? hw
  · rintro rfl
    exact string?_string b

/-! ## Numbers -/

theorem exact_quantity {w : Nat} {v : BitVec w} (h : (quantity v).length < UInt64.size) : Exact (quantity v) :=
  exact_string h

theorem length_quantity_le {w : Nat} (v : BitVec w) : (quantity v).length ≤ w / 8 + 9 := by
  have hsize := Bytes.length_minimal_le (w / 8) v.toNat
  have hle := length_string_le (Bytes.minimal (w / 8) v.toNat)
  rw [quantity]
  omega

/-- A number of `w` bits has as many values as a byte string of that size. -/
theorem toNat_lt_capacity {w : Nat} (hw : w / 8 * 8 = w) (v : BitVec w) : v.toNat < Bytes.capacity (w / 8) := by
  have hcap : Bytes.capacity (w / 8) = Nat.pow 2 w := by
    have hmul : Nat.pow 2 (8 * (w / 8)) = Nat.pow (Nat.pow 2 8) (w / 8) := Nat.pow_mul 2 8 (w / 8)
    rw [show 8 * (w / 8) = w by omega] at hmul
    exact hmul.symm
  rw [hcap]
  exact v.isLt

/-- The minimal form of a number is the one byte string of its size, without a leading zero, that denotes it. -/
theorem eq_minimal_iff {w : Nat} (hw : w / 8 * 8 = w) {b : Bytes} {v : BitVec w} :
    b = Bytes.minimal (w / 8) v.toNat ↔ b.head? ≠ some 0 ∧ b.length * 8 ≤ w ∧ BitVec.ofNat w (Bytes.toNat b) = v := by
  constructor
  · rintro rfl
    have hlen := Bytes.length_minimal_le (w / 8) v.toNat
    refine ⟨Bytes.head?_minimal _ _, by omega, ?_⟩
    rw [Bytes.toNat_minimal _ _ (toNat_lt_capacity hw v), BitVec.ofNat_toNat, BitVec.setWidth_eq]
  · rintro ⟨hhead, hlen, rfl⟩
    have hle : b.length ≤ w / 8 := by omega
    have hlt : Bytes.toNat b < Nat.pow 2 w := by
      have hpow : Nat.pow 256 b.length ≤ Nat.pow 2 w := by
        have hmul : Nat.pow 2 (8 * b.length) = Nat.pow (Nat.pow 2 8) b.length := Nat.pow_mul 2 8 b.length
        have hmono : Nat.pow 2 (8 * b.length) ≤ Nat.pow 2 w := Nat.pow_le_pow_right (by decide) (by omega)
        rw [hmul] at hmono
        exact hmono
      exact Nat.lt_of_lt_of_le (Bytes.toNat_lt b) hpow
    have hnat : (BitVec.ofNat w (Bytes.toNat b)).toNat = Bytes.toNat b :=
      (BitVec.toNat_ofNat _ _).trans (Nat.mod_eq_of_lt hlt)
    rw [hnat, Bytes.minimal_toNat hle hhead]

theorem quantity?_eq_ok_iff {w : Nat} {item : Bytes} (hw : Whole item) (hw8 : w / 8 * 8 = w) {v : BitVec w} :
    quantity? w item = .ok v ↔ item = quantity v := by
  rw [quantity, ← string?_eq_ok_iff hw, quantity?]
  cases string? item with
  | error e => simp
  | ok b =>
    dsimp only
    rw [Except.ok.injEq, eq_minimal_iff hw8]
    by_cases hzero : b.head? = some 0
    · simp [hzero]
    · by_cases hlen : b.length * 8 ≤ w
      · simp [hzero, hlen]
      · simp [hzero, hlen]

theorem word64?_eq_ok_iff {item : Bytes} (hw : Whole item) {v : Word64} : word64? item = .ok v ↔ item = quantity v := by
  rw [quantity, ← string?_eq_ok_iff hw, word64?]
  cases string? item with
  | error e => simp
  | ok b =>
    dsimp only
    rw [Except.ok.injEq, eq_minimal_iff rfl]
    by_cases hlen : 8 < b.length
    · have hbits : ¬b.length * 8 ≤ 64 := by omega
      simp [hlen, hbits]
    · have hbits : b.length * 8 ≤ 64 := by omega
      by_cases hzero : b.head? = some 0
      · simp [hlen, hzero]
      · simp [hlen, hzero, hbits]

/-! ## Byte strings of a fixed length -/

theorem exact_fixed {n : Nat} {a : FixedBytes n} (h : (fixed a).length < UInt64.size) : Exact (fixed a) :=
  exact_string h

theorem recipient_eq (a : Option Address) : recipient a = string ((a.map FixedBytes.toList).getD []) := by
  cases a <;> rfl

theorem exact_recipient {a : Option Address} (h : (recipient a).length < UInt64.size) : Exact (recipient a) := by
  rw [recipient_eq] at h ⊢
  exact exact_string h

theorem length_recipient_le (a : Option Address) : (recipient a).length ≤ 29 := by
  have hbytes : ((a.map FixedBytes.toList).getD []).length ≤ 20 := by
    cases a with
    | none => simp
    | some a => simp [a.length_eq]
  have hle := length_string_le ((a.map FixedBytes.toList).getD [])
  rw [recipient_eq]
  omega

theorem fixed?_eq_ok_iff {n : Nat} {item : Bytes} (hw : Whole item) {a : FixedBytes n} :
    fixed? n item = .ok a ↔ item = fixed a := by
  rw [fixed, ← string?_eq_ok_iff hw, fixed?]
  cases string? item with
  | error e => simp
  | ok b =>
    dsimp only
    rw [Except.ok.injEq, ← FixedBytes.ofList?_eq_some]
    cases FixedBytes.ofList? b with
    | none => simp
    | some c => simp

/-- A recipient is missing exactly where the empty string stands. -/
theorem recipient?_eq_ok_iff {item : Bytes} (hw : Whole item) {a : Option Address} :
    recipient? item = .ok a ↔ item = recipient a := by
  have hne : ∀ c : Address, c.toList ≠ [] := by
    intro c hc
    have hlen := c.length_eq
    rw [hc] at hlen
    cases hlen
  have hform : item = recipient a ↔ string? item = .ok ((a.map FixedBytes.toList).getD []) := by
    rw [string?_eq_ok_iff hw, recipient_eq]
  rw [hform, recipient?]
  cases string? item with
  | error e => simp
  | ok b =>
    cases b with
    | nil =>
      cases a with
      | none => simp
      | some c => simpa using (hne c).symm
    | cons x r =>
      dsimp only
      cases ho : FixedBytes.ofList? (x :: r) with
      | none =>
        cases a with
        | none => simp
        | some c =>
          have hc : x :: r ≠ c.toList := by
            intro hc
            rw [FixedBytes.ofList?_eq_some.2 hc] at ho
            cases ho
          simpa using hc
      | some d =>
        have hd : x :: r = d.toList := FixedBytes.ofList?_eq_some.1 ho
        cases a with
        | none => simp
        | some c => simp [hd, FixedBytes.ext_iff]

end EvmClient.Rlp
