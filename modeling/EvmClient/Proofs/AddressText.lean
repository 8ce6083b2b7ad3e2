import EvmClient.Address
import EvmClient.Proofs.HexText
import EvmClient.Proofs.Numerals
import Mathlib

/-
The texts that name an address, and the one with a checksum among them.

   A text names an address by forty digits of either case behind one optional mark, with blanks around them, and it is
   read as an address exactly if it names one. The checksum form raises letters by the half bytes of a digest of the
   digits. The case of a letter does not count when a text is read, so any digest serves, and any case.

   1. `isHex_iff`, `isHex_iff_bytes` — a text that passes the check spells an address: reading its digits cannot fail.
   2. `parse_eq_ok_iff` — the texts that are read are those that name an address.
   3. `checksumWith_spells` — the checksum form spells the address, for any digest.
   4. `address_texts_exact` — reading and writing together. -/
namespace EvmClient.Address

/-! ## Texts that name an address -/

/-- What may stand before the digits. -/
def marks : List (List Char) := [[], ['0', 'x'], ['0', 'X']]

/-- A text names an address: a mark, if any, and forty digits that spell its bytes, with blanks around them. -/
def Names (s : String) (a : Address) : Prop :=
  ∃ mark ∈ marks, ∃ digits, Text.Framed (mark ++ digits) s.toList ∧ digits.length = 40 ∧ Hex.Spells digits a.toList

section
variable {cs mark digits : List Char} {a : Address}

theorem marks_two : ∀ mark ∈ [['0', 'x'], ['0', 'X']], mark = ['0', 'x'] ∨ mark = ['0', 'X'] := by simp

theorem isDigit_iff {c : Char} : Hex.isDigit c = true ↔ ∃ v, Hex.IsDigitOf c v := by
  simp only [Hex.isDigit, Option.isSome_iff_exists, Hex.value?_eq_some_iff]

/-- A text that passes the check spells an address. -/
theorem isHex_iff : isHex cs = true ↔ ∃ a : Address, Hex.Spells (body cs) a.toList := by
  simp only [isHex, Bool.and_eq_true, beq_iff_eq, List.all_eq_true, isDigit_iff]
  constructor
  · rintro ⟨hlength, hdigits⟩
    obtain ⟨b, hb, hspells⟩ := Hex.exists_spelled (n := 20) hdigits hlength
    exact ⟨⟨b, hb⟩, hspells⟩
  · rintro ⟨a, hspells⟩
    refine ⟨?_, hspells.digits⟩
    rw [hspells.length_eq, a.length_eq]

/-- To ask for forty bytes, each of which is a digit, is the same: a character of more bytes has none that is one. -/
theorem isHex_iff_bytes : isHex cs = true ↔ (Hex.utf8 (body cs)).length = 40 ∧
    ∀ x ∈ Hex.utf8 (body cs), ∃ v, Hex.IsDigitOf (Char.ofNat x.toNat) v := by
  simp only [isHex, Bool.and_eq_true, beq_iff_eq, List.all_eq_true, isDigit_iff, ← Hex.digits_iff_bytes]
  apply and_congr_left
  intro hdigits
  rw [Hex.utf8_of_digits hdigits, List.length_map]

theorem parse?_eq_some_iff : parse? cs = some a ↔
    ∃ mark ∈ marks, ∃ digits, Text.trim cs = mark ++ digits ∧ Hex.Spells digits a.toList := by
  unfold parse?
  constructor
  · intro h
    obtain ⟨mark, hmark, htrim⟩ := Hex.exists_mark [['0', 'x'], ['0', 'X']] (Text.trim cs)
    refine ⟨mark, hmark, body (Text.trim cs), htrim, ?_⟩
    dsimp only at h
    split at h
    · split at h
      · rename_i b hread
        rw [FixedBytes.ofList?_eq_some] at h
        rw [← h]
        exact Hex.decode_eq_ok_iff.1 hread
      · cases h
    · cases h
  · rintro ⟨mark, hmark, digits, htrim, hspells⟩
    have hbody : body (Text.trim cs) = digits := by
      rw [htrim]
      exact Hex.unmarked_of_mark marks_two hmark hspells.digits
    have hhex : isHex (Text.trim cs) = true := isHex_iff.2 ⟨a, by rwa [hbody]⟩
    have hread := Hex.decode_eq_ok_iff.2 hspells
    dsimp only
    rw [if_pos hhex, hbody, hread]
    exact FixedBytes.ofList?_toList a

end

/-- The texts that are read are those that name an address. -/
theorem parse_eq_ok_iff {s : String} {a : Address} : parse s = .ok a ↔ Names s a := by
  have hread : parse s = .ok a ↔ parse? s.toList = some a := by
    unfold parse
    cases parse? s.toList with
    | none => simp
    | some b => simp
  rw [hread, parse?_eq_some_iff]
  constructor
  · rintro ⟨mark, hmark, digits, htrim, hspells⟩
    refine ⟨mark, hmark, digits, ?_, ?_, hspells⟩
    · rw [← htrim]
      exact Text.trim_framed s.toList
    · rw [hspells.length_eq, a.length_eq]
  · rintro ⟨mark, hmark, digits, hframed, hlength, hspells⟩
    have hne : digits ≠ [] := by
      rw [← List.length_pos_iff]
      omega
    exact ⟨mark, hmark, digits, Hex.trim_marked marks_two hmark hne hspells.digits hframed, hspells⟩

theorem parse_refused {s : String} (h : ∀ a, ¬Names s a) : parse s = .error (.invalidAddress s) := by
  unfold parse
  cases hread : parse? s.toList with
  | none => rfl
  | some a =>
    have hparse : parse s = .ok a := by rw [parse, hread]
    exact absurd (parse_eq_ok_iff.1 hparse) (h a)

/-! ## The checksum form -/

/-- The checksum form, by any digest. -/
def checksumWith (digest : Bytes → Hash) (a : Address) : String :=
  let digits := Hex.encodeChars a.toList
  String.ofList ('0' :: 'x' :: raise digits (Hex.halves (digest (Hex.utf8 digits)).toList))

theorem checksum_eq (a : Address) : checksum a = checksumWith keccak256 a := rfl

/-- Letters differ at most in their case. -/
def SameLetters (s t : String) : Prop := s.toList.map Char.toLower = t.toList.map Char.toLower

/-- Where there are half bytes enough, no digit is lost, and only the case of the letters changes. -/
theorem map_toLower_raise {digits : List Char} {halfBytes : List Nat} (h : digits.length ≤ halfBytes.length) :
    (raise digits halfBytes).map Char.toLower = digits.map Char.toLower := by
  induction digits generalizing halfBytes with
  | nil => rfl
  | cons c digits ih =>
    cases halfBytes with
    | nil => simp at h
    | cons m halfBytes =>
      have hrest : digits.length ≤ halfBytes.length := by simpa using h
      have hc : (if 8 ≤ m then c.toUpper else c).toLower = c.toLower := by
        split
        · exact Char.toLower_toUpper_eq_toLower c
        · rfl
      rw [raise, List.zipWith_cons_cons, List.map_cons, List.map_cons, hc]
      exact congrArg _ (ih hrest)

section
variable (digest : Bytes → Hash) (a : Address)

/-- Behind the mark stand forty digits that spell the address. -/
theorem checksumWith_spells : ∃ digits, (checksumWith digest a).toList = '0' :: 'x' :: digits ∧ digits.length = 40 ∧
    Hex.Spells digits a.toList := by
  have hlower := Hex.spells_encodeChars a.toList
  have hlength : (Hex.encodeChars a.toList).length = 40 := by rw [hlower.length_eq, a.length_eq]
  have hhalves : (Hex.halves (digest (Hex.utf8 (Hex.encodeChars a.toList))).toList).length = 64 := by
    have hdouble := Hex.length_halves (digest (Hex.utf8 (Hex.encodeChars a.toList))).toList
    rwa [(digest _).length_eq] at hdouble
  have hspells : Hex.Spells (raise (Hex.encodeChars a.toList) (Hex.halves (digest (Hex.utf8 (Hex.encodeChars a.toList))).toList))
      a.toList := by
    rw [Hex.spells_iff, map_toLower_raise (by omega)]
    exact Hex.spells_iff.1 hlower
  refine ⟨_, String.toList_ofList, ?_, hspells⟩
  rw [hspells.length_eq, a.length_eq]

/-- A text that differs from the checksum form in the case of letters only names the address. -/
theorem names_of_sameLetters {t : String} (h : SameLetters t (checksumWith digest a)) : Names t a := by
  obtain ⟨digits, htext, hlength, hspells⟩ := checksumWith_spells digest a
  rw [SameLetters, htext, List.map_cons, List.map_cons] at h
  obtain ⟨zero, rest, ht, hzero, h⟩ := List.map_eq_cons_iff.1 h
  obtain ⟨x, letters, rfl, hx, h⟩ := List.map_eq_cons_iff.1 h
  have hsame : Hex.Spells letters a.toList := by
    rw [Hex.spells_iff, h]
    exact Hex.spells_iff.1 hspells
  refine ⟨[zero, x], ?_, letters, ?_, ?_, hsame⟩
  · have hzero : zero = '0' := by
      rcases Hex.eq_or_eq_toUpper_of_toLower hzero with rfl | rfl <;> rfl
    rcases Hex.eq_or_eq_toUpper_of_toLower hx with rfl | rfl
    · rw [hzero]
      simp [marks]
    · rw [hzero]
      simp [marks]
  · refine ⟨[], [], ?_, by simp, by simp⟩
    rw [ht]
    simp
  · rw [hsame.length_eq, a.length_eq]

theorem parse_checksumWith : parse (checksumWith digest a) = .ok a :=
  parse_eq_ok_iff.2 (names_of_sameLetters digest a rfl)

end

/-- A text is read exactly if it names an address, as that address, and refused by its own words otherwise; no text that
passes the check fails later. The checksum form is a mark and forty digits, and it, and all texts that differ from it in the
case of letters only, are read as the address, whatever the digest; so no two addresses share a form. -/
theorem address_texts_exact :
    (∀ s a, parse s = .ok a ↔ Names s a) ∧
    (∀ s, (∀ a, ¬Names s a) → parse s = .error (.invalidAddress s)) ∧
    (∀ cs, isHex cs = true ↔ (Hex.utf8 (body cs)).length = 40 ∧
      ∀ x ∈ Hex.utf8 (body cs), ∃ v, Hex.IsDigitOf (Char.ofNat x.toNat) v) ∧
    (∀ cs, isHex cs = true → ∃ a : Address, Hex.decode (Hex.utf8 (body cs)) = .ok a.toList) ∧
    (∀ a, checksum a = checksumWith keccak256 a) ∧
    ∀ digest : Bytes → Hash,
      (∀ a, ∃ digits, (checksumWith digest a).toList = '0' :: 'x' :: digits ∧ digits.length = 40 ∧
        Hex.Spells digits a.toList) ∧
      (∀ a, parse (checksumWith digest a) = .ok a) ∧
      (∀ a b, checksumWith digest a = checksumWith digest b → a = b) ∧
      ∀ a t, SameLetters t (checksumWith digest a) → parse t = .ok a := by
  refine ⟨fun s a => parse_eq_ok_iff, fun s => parse_refused, fun cs => isHex_iff_bytes, ?_, checksum_eq, ?_⟩
  · intro cs hhex
    obtain ⟨a, hspells⟩ := isHex_iff.1 hhex
    exact ⟨a, Hex.decode_eq_ok_iff.2 hspells⟩
  · intro digest
    refine ⟨checksumWith_spells digest, parse_checksumWith digest, ?_, ?_⟩
    · intro a b hsame
      have hread := parse_checksumWith digest a
      rw [hsame, parse_checksumWith digest b] at hread
      exact (Except.ok.inj hread).symm
    · intro a t hsame
      exact parse_eq_ok_iff.2 (names_of_sameLetters digest a hsame)

/-- The address of twenty times the byte `ab`. -/
def repeated : Address := ⟨List.replicate 20 0xab, List.length_replicate⟩

/-- Capitals, small letters and a wide blank name it, and so do capitals in place of a checksum without any; a mark alone
names none. -/
theorem address_texts_exact_repeated :
    parse (String.ofList (['\u3000', '0', 'X'] ++ (List.replicate 20 ['A', 'b']).flatten ++ ['\n'])) = .ok repeated ∧
      parse (String.ofList ('0' :: 'X' :: (List.replicate 20 ['A', 'B']).flatten)) = .ok repeated ∧
      (∃ a : Address, Hex.decode (Hex.utf8 (List.replicate 20 ['a', 'B']).flatten) = .ok a.toList) ∧
      parse (String.ofList ['0', 'x']) = .error (.invalidAddress (String.ofList ['0', 'x'])) := by
  obtain ⟨hread, hrefused, -, hchecked, -, hchecksum⟩ := address_texts_exact
  refine ⟨?_, ?_, ?_, ?_⟩
  · refine (hread _ _).2 ⟨['0', 'X'], by simp [marks], (List.replicate 20 ['A', 'b']).flatten, ?_, by decide, ?_⟩
    · exact ⟨['\u3000'], ['\n'], String.toList_ofList, by simp [Text.isBlank], by simp [Text.isBlank]⟩
    · rw [Hex.spells_iff]
      decide
  · -- A digest of zeros raises no letter.
    obtain ⟨-, -, -, hletters⟩ := hchecksum fun _ => FixedBytes.zero 32
    refine hletters repeated _ ?_
    rw [SameLetters, checksumWith, String.toList_ofList, String.toList_ofList]
    decide
  · exact hchecked (List.replicate 20 ['a', 'B']).flatten (by decide)
  · apply hrefused
    rintro a ⟨mark, -, digits, ⟨before, behind, htext, -⟩, hlength, -⟩
    have hshort := congrArg List.length htext
    rw [String.toList_ofList, List.length_append, List.length_append, List.length_append] at hshort
    simp only [List.length_cons, List.length_nil] at hshort
    omega

end EvmClient.Address
