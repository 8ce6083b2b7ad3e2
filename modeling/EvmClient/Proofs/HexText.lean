import EvmClient.Proofs.Durability
import EvmClient.Proofs.Numerals
import EvmClient.Proofs.WireText
import Mathlib

/-
Texts of hexadecimal digits in either case, and the bytes that they spell.

   1. `value?_eq_some_iff` — the digits that are read are the sixteen of either case, ten of which are the same.
   2. `decode_eq_ok_iff` — a text is read as the bytes that its digits spell, two for each, and refused if it has a
      character that is no digit, of however many bytes, or a digit too many.
   3. `spells_iff` — the case of the letters does not count: a text spells what its lower-case form is the digits of. -/
namespace EvmClient.Hex

/-! ## Digits -/

def lowerDigits : List Char := ['0', '1', '2', '3', '4', '5', '6', '7', '8', '9', 'a', 'b', 'c', 'd', 'e', 'f']

def upperDigits : List Char := ['0', '1', '2', '3', '4', '5', '6', '7', '8', '9', 'A', 'B', 'C', 'D', 'E', 'F']

/-- The character is the digit of a value, in one of the two cases. -/
def IsDigitOf (c : Char) (v : Nat) : Prop := lowerDigits[v]? = some c ∨ upperDigits[v]? = some c

section
variable {c : Char} {v : Nat}

theorem IsDigitOf.lt (h : IsDigitOf c v) : v < 16 := by
  obtain h | h := h
  · exact (List.getElem?_eq_some_iff.1 h).1
  · exact (List.getElem?_eq_some_iff.1 h).1

/-- What is the same in both tables holds of every digit. -/
theorem IsDigitOf.map_eq {α : Type} {f : Char → α} {g : Nat → α} (h : IsDigitOf c v)
    (hlower : ∀ v, v < 16 → lowerDigits[v]?.map f = some (g v))
    (hupper : ∀ v, v < 16 → upperDigits[v]?.map f = some (g v)) : f c = g v := by
  have hlt := h.lt
  obtain h | h := h
  · have hv := hlower v hlt
    rw [h] at hv
    exact Option.some.inj hv
  · have hv := hupper v hlt
    rw [h] at hv
    exact Option.some.inj hv

theorem value?_eq_some_iff : value? c = some v ↔ IsDigitOf c v := by
  constructor
  · intro h
    have htens : ∀ k, k ≤ 9 → lowerDigits[k]? = some (Char.ofNat (48 + k)) := by decide
    have hlower : ∀ k, k ≤ 5 → lowerDigits[10 + k]? = some (Char.ofNat (97 + k)) := by decide
    have hupper : ∀ k, k ≤ 5 → upperDigits[10 + k]? = some (Char.ofNat (65 + k)) := by decide
    have hc : Char.ofNat c.toNat = c := Char.ofNat_toNat c
    unfold value? at h
    dsimp only at h
    split at h
    · rename_i hrange
      have hdigit := htens (c.toNat - 48) (by omega)
      rw [Nat.add_sub_cancel' hrange.1, hc] at hdigit
      cases h
      exact .inl hdigit
    · split at h
      · rename_i hrange
        have hdigit := hlower (c.toNat - 97) (by omega)
        have hvalue : 10 + (c.toNat - 97) = c.toNat - 87 := by omega
        rw [Nat.add_sub_cancel' hrange.1, hc, hvalue] at hdigit
        cases h
        exact .inl hdigit
      · split at h
        · rename_i hrange
          have hdigit := hupper (c.toNat - 65) (by omega)
          have hvalue : 10 + (c.toNat - 65) = c.toNat - 55 := by omega
          rw [Nat.add_sub_cancel' hrange.1, hc, hvalue] at hdigit
          cases h
          exact .inr hdigit
        · cases h
  · intro h
    exact h.map_eq (g := some) (by decide) (by decide)

theorem isDigitOf_digit (h : v < 16) : IsDigitOf (digit v) v := value?_eq_some_iff.1 (value?_digit v h)

theorem IsDigitOf.ascii (h : IsDigitOf c v) : c.toNat < 128 := by
  have hascii := h.map_eq (f := fun c => decide (c.toNat < 128)) (g := fun _ => true) (by decide) (by decide)
  exact of_decide_eq_true hascii

/-- A digit is no letter of a mark. -/
theorem IsDigitOf.no_mark (h : IsDigitOf c v) : c ≠ 'x' ∧ c ≠ 'X' := by
  have hne := h.map_eq (f := fun c => decide (c ≠ 'x' ∧ c ≠ 'X')) (g := fun _ => true) (by decide) (by decide)
  exact of_decide_eq_true hne

theorem IsDigitOf.no_blank (h : IsDigitOf c v) : Text.isBlank c = false :=
  h.map_eq (g := fun _ => false) (by decide) (by decide)

/-- The only byte of a digit is its number. -/
theorem IsDigitOf.encoded (h : IsDigitOf c v) : String.utf8EncodeChar c = [UInt8.ofNat c.toNat] := by
  have hascii : c.val.toNat ≤ 127 := Nat.le_of_lt_succ h.ascii
  rw [String.utf8EncodeChar, if_pos hascii]
  rfl

/-- A character with a lower-case form is this form or its capital. -/
theorem eq_or_eq_toUpper_of_toLower {d : Char} (h : c.toLower = d) : c = d ∨ c = d.toUpper := by
  by_cases hcase : c.isUpper = true
  · right
    rw [← h, Char.toUpper_toLower_eq_toUpper, Char.toUpper_eq_of_not_isLower (Char.not_isLower_of_isUpper hcase)]
  · left
    rw [← h, Char.toLower_eq_of_not_isUpper hcase]

/-- The case of a letter does not count. -/
theorem isDigitOf_iff : IsDigitOf c v ↔ v < 16 ∧ c.toLower = digit v := by
  constructor
  · intro h
    exact ⟨h.lt, h.map_eq (by decide) (by decide)⟩
  · rintro ⟨hlt, hlower⟩
    have hcapital : ∀ v, v < 16 → lowerDigits[v]? = some (digit v).toUpper ∨ upperDigits[v]? = some (digit v).toUpper := by
      decide
    rcases eq_or_eq_toUpper_of_toLower hlower with rfl | rfl
    · exact isDigitOf_digit hlt
    · exact hcapital v hlt

end

/-! ## Marks before digits -/

section Marks
variable {marks : List (List Char)} {mark ds framed : List Char}

/-- A text is a mark, if it starts with one, and what follows it. -/
theorem exists_mark (marks : List (List Char)) (cs : List Char) :
    ∃ mark ∈ [] :: marks, cs = mark ++ unmarked marks cs := by
  unfold unmarked
  split
  · rename_i mark hfound
    have hstarts := List.find?_some hfound
    have hprefix : mark <+: cs := List.isPrefixOf_iff_prefix.1 hstarts
    refine ⟨mark, List.mem_cons_of_mem _ (List.mem_of_find?_eq_some hfound), ?_⟩
    exact List.prefix_append_drop hprefix
  · exact ⟨[], List.mem_cons_self, rfl⟩

variable (hmarks : ∀ mark ∈ marks, mark = ['0', 'x'] ∨ mark = ['0', 'X'])
include hmarks

/-- Digits hold no second mark. -/
theorem unmarked_of_mark (hmark : mark ∈ [] :: marks) (hdigits : ∀ c ∈ ds, ∃ v, IsDigitOf c v) :
    unmarked marks (mark ++ ds) = ds := by
  rcases List.mem_cons.1 hmark with rfl | hmem
  · have hnone : marks.find? (·.isPrefixOf ds) = none := by
      rw [List.find?_eq_none]
      intro m hm hprefix
      obtain ⟨rest, rfl⟩ := List.isPrefixOf_iff_prefix.1 hprefix
      rcases hmarks m hm with rfl | rfl
      · obtain ⟨v, hv⟩ := hdigits 'x' (by simp)
        exact hv.no_mark.1 rfl
      · obtain ⟨v, hv⟩ := hdigits 'X' (by simp)
        exact hv.no_mark.2 rfl
    rw [List.nil_append, unmarked, hnone]
  · obtain ⟨m, hfound⟩ : ∃ m, marks.find? (·.isPrefixOf (mark ++ ds)) = some m := by
      rw [← Option.isSome_iff_exists, List.find?_isSome]
      exact ⟨mark, hmem, List.isPrefixOf_iff_prefix.2 (List.prefix_append mark ds)⟩
    have hstarts := List.find?_some hfound
    have hprefix : m <+: mark ++ ds := List.isPrefixOf_iff_prefix.1 hstarts
    -- All marks are of one length, so the one that was found is the one that stands there.
    have hlength : m.length = mark.length := by
      rcases hmarks m (List.mem_of_find?_eq_some hfound) with rfl | rfl
      · rcases hmarks mark hmem with rfl | rfl <;> rfl
      · rcases hmarks mark hmem with rfl | rfl <;> rfl
    have hm : m = mark :=
      (List.prefix_of_prefix_length_le hprefix (List.prefix_append mark ds) (Nat.le_of_eq hlength)).eq_of_length hlength
    rw [unmarked, hfound, hm]
    exact List.drop_left

/-- Blanks around a mark and digits are taken off, and no more. -/
theorem trim_marked (hmark : mark ∈ [] :: marks) (hne : ds ≠ []) (hdigits : ∀ c ∈ ds, ∃ v, IsDigitOf c v)
    (h : Text.Framed (mark ++ ds) framed) : Text.trim framed = mark ++ ds := by
  have hplain : mark.all (!Text.isBlank ·) = true := by
    rcases List.mem_cons.1 hmark with rfl | hmem
    · rfl
    · rcases hmarks mark hmem with rfl | rfl <;> decide
  apply Text.trim_of_framed h
  · simp [hne]
  · intro c hc
    rcases List.mem_append.1 hc with hc | hc
    · have hblank := List.all_eq_true.1 hplain c hc
      rwa [Bool.not_eq_true'] at hblank
    · obtain ⟨v, hv⟩ := hdigits c hc
      exact hv.no_blank

end Marks

/-! ## Texts of digits -/

/-- Two digits for each byte, that of its high half in front. -/
inductive Spells : List Char → Bytes → Prop where
  | nil : Spells [] []
  | byte {hi lo : Char} {x : UInt8} {cs : List Char} {b : Bytes} (high : IsDigitOf hi (x.toNat / 16))
    (low : IsDigitOf lo (x.toNat % 16)) (rest : Spells cs b) : Spells (hi :: lo :: cs) (x :: b)

section
variable {cs : List Char} {b : Bytes}

theorem Spells.length_eq (h : Spells cs b) : cs.length = 2 * b.length := by
  induction h with
  | nil => rfl
  | byte _ _ _ ih =>
    simp only [List.length_cons, ih]
    omega

theorem Spells.digits (h : Spells cs b) : ∀ c ∈ cs, ∃ v, IsDigitOf c v := by
  induction h with
  | nil => simp
  | byte high low _ ih => exact List.forall_mem_cons.2 ⟨⟨_, high⟩, List.forall_mem_cons.2 ⟨⟨_, low⟩, ih⟩⟩

/-- Digits are one byte each. -/
theorem utf8_of_digits (h : ∀ c ∈ cs, ∃ v, IsDigitOf c v) : utf8 cs = cs.map fun c => UInt8.ofNat c.toNat := by
  induction cs with
  | nil => rfl
  | cons c cs ih =>
    obtain ⟨⟨v, hv⟩, hcs⟩ := List.forall_mem_cons.1 h
    have htail := ih hcs
    rw [utf8] at htail ⊢
    rw [List.flatMap_cons, hv.encoded, htail, List.map_cons, List.singleton_append]

theorem spells_cons {hi lo : Char} {high low : Nat} (hhigh : IsDigitOf hi high) (hlow : IsDigitOf lo low)
    (h : Spells cs b) : Spells (hi :: lo :: cs) (UInt8.ofNat (high * 16 + low) :: b) := by
  have hhighLt := hhigh.lt
  have hlowLt := hlow.lt
  have hx : (UInt8.ofNat (high * 16 + low)).toNat = high * 16 + low := by
    rw [UInt8.toNat_ofNat']
    omega
  have hhighHalf : (high * 16 + low) / 16 = high := by omega
  have hlowHalf : (high * 16 + low) % 16 = low := by omega
  exact .byte (by rwa [hx, hhighHalf]) (by rwa [hx, hlowHalf]) h

/-- So many digits spell so many bytes. -/
theorem exists_spelled {n : Nat} (hdigits : ∀ c ∈ cs, ∃ v, IsDigitOf c v) (hlength : cs.length = 2 * n) :
    ∃ b : Bytes, b.length = n ∧ Spells cs b := by
  induction n generalizing cs with
  | zero =>
    rw [List.eq_nil_of_length_eq_zero hlength]
    exact ⟨[], rfl, .nil⟩
  | succ n ih =>
    rcases cs with _ | ⟨hi, _ | ⟨lo, cs⟩⟩
    · cases hlength
    · rw [List.length_singleton] at hlength
      omega
    · obtain ⟨⟨high, hhigh⟩, hdigits⟩ := List.forall_mem_cons.1 hdigits
      obtain ⟨⟨low, hlow⟩, hdigits⟩ := List.forall_mem_cons.1 hdigits
      have hrest : cs.length = 2 * n := by
        rw [List.length_cons, List.length_cons] at hlength
        omega
      obtain ⟨b, hb, hspells⟩ := ih hdigits hrest
      exact ⟨_ :: b, by rw [List.length_cons, hb], spells_cons hhigh hlow hspells⟩

theorem spells_encodeChars (b : Bytes) : Spells (encodeChars b) b := by
  induction b with
  | nil => exact .nil
  | cons x b ih =>
    have hhigh : x.toNat / 16 < 16 := by
      have hlt := x.toNat_lt
      omega
    have hlow : x.toNat % 16 < 16 := Nat.mod_lt _ (by decide)
    exact .byte (isDigitOf_digit hhigh) (isDigitOf_digit hlow) ih

/-- A text spells what its lower-case form is the digits of. -/
theorem spells_iff : Spells cs b ↔ cs.map Char.toLower = encodeChars b := by
  constructor
  · intro h
    induction h with
    | nil => rfl
    | byte high low _ ih =>
      rw [List.map_cons, List.map_cons, ih, (isDigitOf_iff.1 high).2, (isDigitOf_iff.1 low).2]
      rfl
  · intro h
    induction b generalizing cs with
    | nil =>
      rw [List.map_eq_nil_iff.1 h]
      exact .nil
    | cons x b ih =>
      have hhigh : x.toNat / 16 < 16 := by
        have hlt := x.toNat_lt
        omega
      have hlow : x.toNat % 16 < 16 := Nat.mod_lt _ (by decide)
      have hsplit : encodeChars (x :: b) = digit (x.toNat / 16) :: digit (x.toNat % 16) :: encodeChars b := rfl
      rw [hsplit] at h
      obtain ⟨hi, cs, rfl, hhi, h⟩ := List.map_eq_cons_iff.1 h
      obtain ⟨lo, cs, rfl, hlo, h⟩ := List.map_eq_cons_iff.1 h
      exact .byte (isDigitOf_iff.2 ⟨hhigh, hhi⟩) (isDigitOf_iff.2 ⟨hlow, hlo⟩) (ih h)

end

/-! ## Reading digits -/

section
variable {cs : List Char} {b text : Bytes} {position : Nat}

theorem nibble_eq_ok_iff {x : UInt8} {v : Nat} : nibble position x = .ok v ↔ IsDigitOf (Char.ofNat x.toNat) v := by
  rw [← value?_eq_some_iff]
  unfold nibble
  cases value? (Char.ofNat x.toNat) with
  | none => simp
  | some u => simp

theorem utf8_injective {a b : List Char} (h : utf8 a = utf8 b) : a = b := by
  have ha := fromUTF8?_utf8 a
  rw [h, fromUTF8?_utf8, Option.some.injEq, String.ofList_inj] at ha
  exact ha.symm

theorem utf8_of_bytes (h : ∀ c ∈ text.map fun x => Char.ofNat x.toNat, ∃ v, IsDigitOf c v) :
    utf8 (text.map fun x => Char.ofNat x.toNat) = text := by
  rw [utf8_of_digits h, List.map_map]
  apply List.map_id''
  intro x
  have hx := x.toNat_lt
  have hvalid : x.toNat.isValidChar := .inl (by omega)
  rw [Function.comp, Char.toNat_ofNat, if_pos hvalid, UInt8.ofNat_toNat]

theorem IsDigitOf.byte {c : Char} {v : Nat} (h : IsDigitOf c v) : Char.ofNat (UInt8.ofNat c.toNat).toNat = c := by
  have hascii := h.ascii
  rw [UInt8.toNat_ofNat', Nat.mod_eq_of_lt (by omega), Char.ofNat_toNat]

/-- The bytes are digits exactly if the characters are: a character of more bytes has none that is a digit. -/
theorem digits_iff_bytes : (∀ c ∈ cs, ∃ v, IsDigitOf c v) ↔ ∀ x ∈ utf8 cs, ∃ v, IsDigitOf (Char.ofNat x.toNat) v := by
  constructor
  · intro h
    rw [utf8_of_digits h]
    intro x hx
    obtain ⟨c, hc, rfl⟩ := List.mem_map.1 hx
    obtain ⟨v, hv⟩ := h c hc
    exact ⟨v, hv.byte.symm ▸ hv⟩
  · intro h
    have hchars : ∀ c ∈ (utf8 cs).map fun x => Char.ofNat x.toNat, ∃ v, IsDigitOf c v := by
      intro c hc
      obtain ⟨x, hx, rfl⟩ := List.mem_map.1 hc
      exact h x hx
    rwa [utf8_injective (utf8_of_bytes hchars)] at hchars

/-- The bytes of digits are read as the bytes that the digits spell. -/
theorem decodePairs_spelled (h : Spells cs b) : decodePairs position (cs.map fun c => UInt8.ofNat c.toNat) = .ok b := by
  induction h generalizing position with
  | nil => rfl
  | byte high low _ ih =>
    have hhigh : nibble position _ = .ok _ := nibble_eq_ok_iff.2 (high.byte.symm ▸ high)
    have hlow : nibble (position + 1) _ = .ok _ := nibble_eq_ok_iff.2 (low.byte.symm ▸ low)
    rw [List.map_cons, List.map_cons, decodePairs, hhigh, hlow, ih]
    simp only [bind, Except.bind, pure, Except.pure, byte_halves]

/-- The bytes that are read are those of digits. -/
theorem spells_of_decodePairs (h : decodePairs position text = .ok b) (heven : text.length % 2 = 0) :
    Spells (text.map fun x => Char.ofNat x.toNat) b := by
  induction position, text using decodePairs.induct generalizing b with
  | case1 position hi lo rest ih =>
    rw [decodePairs] at h
    obtain ⟨high, hhigh, h⟩ := bind_eq_ok_iff.1 h
    obtain ⟨low, hlow, h⟩ := bind_eq_ok_iff.1 h
    obtain ⟨tail, htail, h⟩ := bind_eq_ok_iff.1 h
    cases h
    have hrest : rest.length % 2 = 0 := by
      rw [List.length_cons, List.length_cons] at heven
      omega
    rw [List.map_cons, List.map_cons]
    exact spells_cons (nibble_eq_ok_iff.1 hhigh) (nibble_eq_ok_iff.1 hlow) (ih htail hrest)
  | case2 text position hshort =>
    rcases text with _ | ⟨hi, _ | ⟨lo, rest⟩⟩
    · rw [decodePairs] at h
      · cases h
        exact .nil
      · simp
    · cases heven
    · exact absurd rfl (hshort hi lo rest)

/-- A text is read as the bytes that it spells. -/
theorem decode_eq_ok_iff : decode (utf8 cs) = .ok b ↔ Spells cs b := by
  unfold decode
  constructor
  · intro h
    split at h
    · cases h
    · rename_i heven
      have hspells := spells_of_decodePairs h (by omega)
      -- The bytes that were read are those of the digits, and no other text has these.
      rwa [utf8_injective (utf8_of_bytes hspells.digits)] at hspells
  · intro h
    have hbytes := utf8_of_digits h.digits
    have heven : (utf8 cs).length % 2 = 0 := by
      rw [hbytes, List.length_map, h.length_eq]
      omega
    rw [if_neg (by omega), hbytes, decodePairs_spelled h]

end

/-! ## The number of a text of digits -/

/-- The number that digits denote, the first one's place the highest. -/
def Denotes (cs : List Char) (k : ℕ) : Prop := ∃ vs, List.Forall₂ IsDigitOf cs vs ∧ Wire.number vs = k

section
variable {cs : List Char} {b : Bytes} {k m : ℕ}

theorem Spells.values (h : Spells cs b) : List.Forall₂ IsDigitOf cs (halves b) := by
  induction h with
  | nil => exact .nil
  | byte high low _ ih => exact .cons high (.cons low ih)

theorem number_halves (b : Bytes) : Wire.number (halves b) = Bytes.toNat b := by
  have heven : (halves b).length % 2 = 0 := by
    rw [length_halves]
    omega
  rw [← Wire.toNat_pairs (halves_lt b) heven, Wire.pairs_halves]

/-- Digits denote the number of the bytes that they spell. -/
theorem Spells.denotes (h : Spells cs b) : Denotes cs (Bytes.toNat b) := ⟨halves b, h.values, number_halves b⟩

theorem Denotes.digits (h : Denotes cs k) : ∀ c ∈ cs, ∃ v, IsDigitOf c v := by
  obtain ⟨vs, hvs, -⟩ := h
  induction hvs with
  | nil => simp
  | cons hv _ ih => exact List.forall_mem_cons.2 ⟨⟨_, hv⟩, ih⟩

theorem Denotes.unique (h : Denotes cs k) (h' : Denotes cs m) : k = m := by
  obtain ⟨vs, hvs, rfl⟩ := h
  obtain ⟨ws, hws, rfl⟩ := h'
  have hunique : Relator.RightUnique IsDigitOf := by
    intro c v w hv hw
    exact Option.some.inj ((value?_eq_some_iff.2 hv).symm.trans (value?_eq_some_iff.2 hw))
  rw [List.right_unique_forall₂' hunique hvs hws]

end

section
variable {vs ws : List ℕ}

theorem number_eq_ofDigits (vs : List ℕ) : Wire.number vs = Nat.ofDigits 16 vs.reverse := by
  induction vs using List.reverseRecOn with
  | nil => rfl
  | append_singleton vs v ih =>
    rw [Wire.number_append, ih, List.reverse_append, List.reverse_singleton, List.singleton_append, Nat.ofDigits_cons,
      Nat.mul_comm, Nat.add_comm]

theorem number_inj (hvs : ∀ v ∈ vs, v < 16) (hws : ∀ v ∈ ws, v < 16) (hlength : vs.length = ws.length)
    (h : Wire.number vs = Wire.number ws) : vs = ws := by
  rw [number_eq_ofDigits, number_eq_ofDigits] at h
  apply List.reverse_injective
  refine Nat.ofDigits_inj_of_len_eq (by decide) ?_ ?_ ?_ h
  · rw [List.length_reverse, List.length_reverse, hlength]
  · intro v hv
    exact hvs v (List.mem_reverse.1 hv)
  · intro v hv
    exact hws v (List.mem_reverse.1 hv)

/-- Zeros before the digits change no number. -/
theorem number_zeros (m : ℕ) (vs : List ℕ) : Wire.number (List.replicate m 0 ++ vs) = Wire.number vs := by
  induction m with
  | zero => rfl
  | succ m ih => exact ih

/-- A number in so many bytes is written as its digits with zeros before them. -/
theorem encodeChars_ofNat {len k : ℕ} (hpos : 0 < len) (h : k < Bytes.capacity len) :
    encodeChars (Bytes.ofNat len k) = (Nat.toDigits 16 k).leftpad (2 * len) '0' := by
  obtain ⟨vs, hdigits, hlt, hnumber⟩ := Wire.exists_halves k
  have hfits : vs.length ≤ 2 * len := by
    have hcapacity : 16 ^ (2 * len) = Bytes.capacity len := Nat.pow_mul 16 2 len
    have hle := (Nat.length_toDigits_le_iff (b := 16) (k := 2 * len) (n := k) (by decide) (by omega)).2 (by omega)
    rwa [hdigits, List.length_map] at hle
  have hpadded : halves (Bytes.ofNat len k) = List.replicate (2 * len - vs.length) 0 ++ vs := by
    apply number_inj (halves_lt _)
    · intro v hv
      rcases List.mem_append.1 hv with hv | hv
      · rw [List.eq_of_mem_replicate hv]
        decide
      · exact hlt v hv
    · rw [length_halves, Bytes.length_ofNat, List.length_append, List.length_replicate]
      omega
    · rw [number_zeros, hnumber, number_halves, Bytes.toNat_ofNat len k h]
  rw [encodeChars_eq, hpadded, hdigits, List.map_append, List.map_replicate, List.leftpad, List.length_map]
  rfl

end

end EvmClient.Hex
