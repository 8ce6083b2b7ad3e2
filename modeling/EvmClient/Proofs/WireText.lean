import EvmClient.Proofs.JsonText
import EvmClient.Wire.Forms

/-
Quantities and byte strings in a node's JSON read back.

   1. `quantity?_quantity` — a quantity, with an even or an odd number of digits.
   2. `fixed?_fixed` — a byte string of a fixed length.
   3. `bytes?_bytes` — a byte string of any length, the empty one included. -/
namespace EvmClient

namespace Hex

theorem halves_lt (b : Bytes) : ∀ v ∈ halves b, v < 16 := by
  intro v hv
  obtain ⟨x, -, hx⟩ := List.mem_flatMap.1 hv
  have hlt := x.toNat_lt
  simp only [List.mem_cons, List.not_mem_nil, or_false] at hx
  omega

theorem length_halves (b : Bytes) : (halves b).length = 2 * b.length := by
  induction b with
  | nil => rfl
  | cons x b ih =>
    simp only [halves, List.flatMap_cons, List.length_append, List.length_cons, List.length_nil] at ih ⊢
    omega

theorem encodeChars_eq (b : Bytes) : encodeChars b = (halves b).map digit := by
  simp [encodeChars, halves, List.map_flatMap]

theorem byte_halves (x : UInt8) : UInt8.ofNat (x.toNat / 16 * 16 + x.toNat % 16) = x := by
  have h : x.toNat / 16 * 16 + x.toNat % 16 = x.toNat := by omega
  rw [h, UInt8.ofNat_toNat]

theorem mapM_value?_digit {vs : List Nat} (h : ∀ v ∈ vs, v < 16) : (vs.map digit).mapM value? = some vs := by
  induction vs with
  | nil => rfl
  | cons v vs ih =>
    obtain ⟨hv, hvs⟩ := List.forall_mem_cons.1 h
    rw [List.map_cons, List.mapM_cons, value?_digit v hv, ih hvs]
    rfl

/-- No digit is a mark or a blank. -/
theorem digit_plain : ∀ v, v < 16 → digit v ≠ 'x' ∧ Wire.isSkipped (digit v) = false := by decide

theorem utf8_digit : ∀ v, v < 16 → String.utf8EncodeChar (digit v) = [UInt8.ofNat (digit v).toNat] := by decide

end Hex

namespace Wire
open Hex

/-! ## Digits -/

theorem looseBytes?_digits {vs : List Nat} (h : ∀ v ∈ vs, v < 16) :
    looseBytes? (vs.map digit) = some (pairs (if vs.length % 2 = 1 then 0 :: vs else vs)) := by
  have hfilter : (vs.map digit).filter (!isSkipped ·) = vs.map digit := by
    apply List.filter_eq_self.2
    intro c hc
    obtain ⟨v, hv, rfl⟩ := List.mem_map.1 hc
    rw [(digit_plain v (h v hv)).2]
    rfl
  rw [looseBytes?, hfilter, mapM_value?_digit h, List.length_map]
  rfl

theorem pairs_halves (b : Bytes) : pairs (halves b) = b := by
  induction b with
  | nil => rfl
  | cons x b ih =>
    have hsplit : halves (x :: b) = x.toNat / 16 :: x.toNat % 16 :: halves b := rfl
    rw [hsplit, pairs, byte_halves, ih]

/-- The number of half bytes, the highest first. -/
def number (vs : List Nat) : Nat := vs.foldl (fun acc v => acc * 16 + v) 0

theorem number_append (vs : List Nat) (v : Nat) : number (vs ++ [v]) = number vs * 16 + v := by
  simp [number]

/-- Pairs of half bytes denote what the half bytes denote. -/
theorem toNat_pairs {vs : List Nat} (h : ∀ v ∈ vs, v < 16) (heven : vs.length % 2 = 0) :
    Bytes.toNat (pairs vs) = number vs := by
  suffices hfold : ∀ k, (pairs vs).foldl (fun acc x => acc * 256 + x.toNat) k = vs.foldl (fun acc v => acc * 16 + v) k from
    hfold 0
  induction vs using pairs.induct with
  | case1 hi lo rest ih =>
    obtain ⟨hhi, hlo, hrest⟩ : hi < 16 ∧ lo < 16 ∧ ∀ v ∈ rest, v < 16 := by simpa using h
    have hlength : rest.length % 2 = 0 := by
      simp only [List.length_cons] at heven
      omega
    intro k
    have hbyte : (UInt8.ofNat (hi * 16 + lo)).toNat = hi * 16 + lo := by
      rw [UInt8.toNat_ofNat']
      omega
    have hstep : k * 256 + (hi * 16 + lo) = (k * 16 + hi) * 16 + lo := by omega
    rw [pairs, List.foldl_cons, List.foldl_cons, List.foldl_cons, hbyte, hstep]
    exact ih hrest hlength _
  | case2 vs hshort =>
    match vs with
    | [] => exact fun _ => rfl
    | [v] => cases heven
    | hi :: lo :: rest => exact absurd rfl (hshort hi lo rest)

/-- The hexadecimal digits of a number. -/
theorem exists_halves (n : Nat) : ∃ vs, Nat.toDigits 16 n = vs.map digit ∧ (∀ v ∈ vs, v < 16) ∧ number vs = n := by
  have hchar : ∀ v, v < 16 → Nat.digitChar v = digit v := by decide
  induction n using Nat.strongRecOn with
  | _ n ih =>
    by_cases hn : n < 16
    · exact ⟨[n], by rw [Nat.toDigits_of_lt_base hn, hchar n hn, List.map_singleton], by simpa using hn, by simp [number]⟩
    · -- The last digit stands behind the digits of the quotient.
      obtain ⟨vs, hdigits, hlt, hnumber⟩ := ih (n / 16) (by omega)
      have hlast : n % 16 < 16 := Nat.mod_lt _ (by decide)
      refine ⟨vs ++ [n % 16], ?_, ?_, ?_⟩
      · rw [Nat.toDigits_of_base_le (by decide) (by omega), hdigits, hchar _ hlast, List.map_append, List.map_singleton]
      · exact List.forall_mem_append.2 ⟨hlt, by simpa using hlast⟩
      · rw [number_append, hnumber]
        omega

/-! ## Forms -/

theorem toList_mark (cs : List Char) : ("0x" ++ String.ofList cs).toList = '0' :: 'x' :: cs := by
  simp

theorem stripMark_mark (cs : List Char) : stripMark ('0' :: 'x' :: cs) = cs := rfl

theorem fixedOf?_encode0x {n : Nat} (b : FixedBytes n) : fixedOf? n (encode0x b.toList) = some b := by
  have hlength := length_halves b.toList
  have hloose := looseBytes?_digits (halves_lt b.toList)
  rw [if_neg (by omega), pairs_halves] at hloose
  unfold fixedOf?
  rw [encode0x, encode, toList_mark, encodeChars_eq]
  simp only [stripMark_mark, List.length_map, hlength, hloose]
  simp [b.length_eq]

theorem quantityOf?_quantityText {w : Nat} (v : BitVec w) (hw : w % 4 = 0) (hpos : 0 < w) :
    quantityOf? w (quantityText v.toNat) = some v := by
  obtain ⟨vs, hdigits, hlt, hnumber⟩ := exists_halves v.toNat
  have hfits : (Nat.toDigits 16 v.toNat).length ≤ w / 4 := by
    rw [Nat.length_toDigits_le_iff (by decide) (by omega)]
    have hpow : 16 ^ (w / 4) = 2 ^ w := by
      have hw : 4 * (w / 4) = w := by omega
      calc 16 ^ (w / 4) = (2 ^ 4) ^ (w / 4) := rfl
        _ = 2 ^ (4 * (w / 4)) := (Nat.pow_mul 2 4 (w / 4)).symm
        _ = 2 ^ w := by rw [hw]
    rw [hpow]
    exact v.isLt
  have hnonempty : 0 < (Nat.toDigits 16 v.toNat).length := Nat.length_toDigits_pos
  rw [hdigits, List.length_map] at hfits hnonempty
  have hvalue : Bytes.toNat (pairs (if vs.length % 2 = 1 then 0 :: vs else vs)) = v.toNat := by
    -- With an odd number of digits a zero half goes in front, which changes no number.
    split
    · have hcons : ∀ u ∈ 0 :: vs, u < 16 := List.forall_mem_cons.2 ⟨by decide, hlt⟩
      rw [toNat_pairs hcons (by rw [List.length_cons]; omega)]
      exact hnumber
    · rw [toNat_pairs hlt (by omega), hnumber]
  unfold quantityOf?
  rw [quantityText, toList_mark, hdigits]
  simp only [stripMark_mark, List.length_map]
  rw [if_pos ⟨hnonempty, by omega⟩, looseBytes?_digits hlt, Option.map_some, hvalue]
  simp

/-- The bytes of a text of digits, each the number of its digit. -/
theorem utf8_digits {vs : List Nat} (h : ∀ v ∈ vs, v < 16) :
    utf8 (vs.map digit) = vs.map fun v => UInt8.ofNat (digit v).toNat := by
  induction vs with
  | nil => rfl
  | cons v vs ih =>
    obtain ⟨hv, hvs⟩ := List.forall_mem_cons.1 h
    have htail := ih hvs
    rw [utf8] at htail ⊢
    rw [List.map_cons, List.flatMap_cons, utf8_digit v hv, htail, List.map_cons, List.singleton_append]

theorem nibble_digit (position : Nat) : ∀ v, v < 16 → nibble position (UInt8.ofNat (digit v).toNat) = .ok v := by
  intro v hv
  have hvalue : ∀ v, v < 16 → value? (Char.ofNat (UInt8.ofNat (digit v).toNat).toNat) = some v := by decide
  rw [nibble, hvalue v hv]

theorem decodePairs_halves (position : Nat) (b : Bytes) :
    decodePairs position ((halves b).map fun v => UInt8.ofNat (digit v).toNat) = .ok b := by
  induction b generalizing position with
  | nil => rfl
  | cons x b ih =>
    have hhi : x.toNat / 16 < 16 := by
      have := x.toNat_lt
      omega
    have hlo : x.toNat % 16 < 16 := Nat.mod_lt _ (by decide)
    have hsplit : halves (x :: b) = x.toNat / 16 :: x.toNat % 16 :: halves b := rfl
    rw [hsplit, List.map_cons, List.map_cons, decodePairs, nibble_digit _ _ hhi, nibble_digit _ _ hlo, ih]
    simp only [bind, Except.bind, pure, Except.pure, byte_halves]

/-- Digits hold no second mark. -/
theorem stripMarks_digits {vs : List Nat} (h : ∀ v ∈ vs, v < 16) : stripMarks ('0' :: 'x' :: vs.map digit) = vs.map digit := by
  have hdigits : stripMarks (vs.map digit) = vs.map digit := by
    unfold stripMarks
    split
    · rename_i rest hmark
      have hmem : 'x' ∈ vs.map digit := by rw [hmark]; simp
      obtain ⟨v, hv, hx⟩ := List.mem_map.1 hmem
      exact absurd hx (digit_plain v (h v hv)).1
    · rfl
  rw [stripMarks, hdigits]

theorem bytesOf_encode0x (b : Bytes) : bytesOf (encode0x b) = .ok b := by
  have hlength : (utf8 ((halves b).map digit)).length = 2 * b.length := by
    rw [utf8_digits (halves_lt b), List.length_map, length_halves]
  rw [bytesOf, encode0x, encode, toList_mark, encodeChars_eq, stripMarks_digits (halves_lt b), decode, if_neg (by omega),
    utf8_digits (halves_lt b), decodePairs_halves]

/-! ## In JSON -/

theorem fixed?_fixed {n : Nat} (b : FixedBytes n) : fixed? n (fixed b) = some b := fixedOf?_encode0x b

theorem quantity?_quantity {w : Nat} (v : BitVec w) (hw : w % 4 = 0) (hpos : 0 < w) : quantity? w (quantity v) = some v :=
  quantityOf?_quantityText v hw hpos

theorem bytes?_bytes (b : Bytes) : bytes? (bytes b) = some b := by
  show (bytesOf (encode0x b)).toOption = some b
  rw [bytesOf_encode0x]
  rfl

end Wire
end EvmClient
