import EvmClient.Proofs.CurveGroup
import EvmClient.Proofs.HexText
import EvmClient.Signer
import Mathlib

/-
The texts of private keys.

   A key is written as sixty-four digits of either case behind an optional mark, with blanks around them. The number that
   they denote is a key if it is not zero and below the order of the group, and then there is a signer for it: no text that
   is read fails later. A key is shown by its digits in lower case with all their leading zeros, which are read as the same
   key.

   1. `parse_eq_ok_iff` — the texts from which a signer is made, and for which key.
   2. `text_toList` — how a key is shown.
   3. `bytes_are_characters` — to count bytes in place of characters makes no difference.
   4. `key_texts_exact` — reading and showing together. -/
namespace EvmClient.Signer
open Ecdsa

/-! ## Texts that denote a key -/

/-- What may stand before the digits. -/
def marks : List (List Char) := [[], ['0', 'x']]

/-- A text is a key's text, up to the size of its number: a mark, if any, and sixty-four digits, with blanks around
them. -/
def KeyText (s : String) (k : ℕ) : Prop :=
  ∃ mark ∈ marks, ∃ digits, Text.Framed (mark ++ digits) s.toList ∧ digits.length = 64 ∧ Hex.Denotes digits k

section
variable {cs mark digits : List Char} {b : Bytes} {k : ℕ} {s : String} {key : PrivateKey} {signer : Signer}

theorem marks_one : ∀ mark ∈ [['0', 'x']], mark = ['0', 'x'] ∨ mark = ['0', 'X'] := by simp

theorem ofNat?_eq_some_iff : PrivateKey.ofNat? k = some key ↔ key.scalar = k := by
  unfold PrivateKey.ofNat?
  split
  next hrange =>
    constructor
    · intro h
      rw [← Option.some.inj h]
    · intro h
      cases key
      cases h
      rfl
  next hrange =>
    constructor
    · intro h
      cases h
    · intro h
      exact absurd ⟨h ▸ key.pos, h ▸ key.lt⟩ hrange

theorem ofDigits?_eq_some_iff :
    PrivateKey.ofDigits? digits = some key ↔ digits.length = 64 ∧ Hex.Denotes digits key.scalar := by
  unfold PrivateKey.ofDigits?
  constructor
  · intro h
    split at h
    · rename_i hlength
      split at h
      · rename_i b hread
        rw [ofNat?_eq_some_iff] at h
        exact ⟨hlength, h ▸ (Hex.decode_eq_ok_iff.1 hread).denotes⟩
      · cases h
    · cases h
  · intro h
    obtain ⟨hlength, hdenotes⟩ := h
    obtain ⟨b, _, hspells⟩ := Hex.exists_spelled (n := 32) hdenotes.digits hlength
    rw [if_pos hlength, Hex.decode_eq_ok_iff.2 hspells]
    exact ofNat?_eq_some_iff.2 (hdenotes.unique hspells.denotes)

/-- The texts of a key are those that it is read from. -/
theorem keyText_iff : KeyText s k ↔ (PrivateKey.unmarked (Text.trim s.toList)).length = 64 ∧
    Hex.Denotes (PrivateKey.unmarked (Text.trim s.toList)) k := by
  constructor
  · intro h
    obtain ⟨mark, hmark, digits, hframed, hlength, hdenotes⟩ := h
    have hne : digits ≠ [] := by
      rw [← List.length_pos_iff]
      omega
    have hdigits : PrivateKey.unmarked (Text.trim s.toList) = digits := by
      rw [Hex.trim_marked marks_one hmark hne hdenotes.digits hframed]
      exact Hex.unmarked_of_mark marks_one hmark hdenotes.digits
    rw [hdigits]
    exact ⟨hlength, hdenotes⟩
  · intro h
    obtain ⟨mark, hmark, htrim⟩ := Hex.exists_mark [['0', 'x']] (Text.trim s.toList)
    refine ⟨mark, hmark, _, ?_, h⟩
    show Text.Framed (mark ++ Hex.unmarked [['0', 'x']] (Text.trim s.toList)) s.toList
    rw [← htrim]
    exact Text.trim_framed s.toList

/-- There is a signer for every key. -/
theorem exists_ofKey? (key : PrivateKey) : ∃ signer, ofKey? key = some signer := by
  obtain ⟨q, hq⟩ := Option.isSome_iff_exists.1 key.publicKey?_isSome
  exact ⟨_, by rw [ofKey?, hq]; rfl⟩

theorem key_of_ofKey? (h : ofKey? key = some signer) : signer.key = key := by
  obtain ⟨q, -, rfl⟩ := Option.map_eq_some_iff.1 h
  rfl

/-- A signer is made from the texts of its key, and from no others. -/
theorem parse_eq_ok_iff : parse s = .ok signer ↔ KeyText s signer.key.scalar ∧ ofKey? signer.key = some signer := by
  have hparse : parse s = .ok signer ↔ (PrivateKey.read? s.toList).bind ofKey? = some signer := by
    unfold parse
    cases (PrivateKey.read? s.toList).bind ofKey? with
    | none => simp
    | some other => simp
  rw [hparse, Option.bind_eq_some_iff, keyText_iff, ← ofDigits?_eq_some_iff]
  constructor
  · intro hsome
    obtain ⟨key, hread, hsigner⟩ := hsome
    have hkey := key_of_ofKey? hsigner
    rw [hkey]
    exact ⟨hread, hsigner⟩
  · intro hsome
    obtain ⟨hread, hsigner⟩ := hsome
    exact ⟨signer.key, hread, hsigner⟩

theorem parse_refused (h : ∀ k, KeyText s k → ¬(1 ≤ k ∧ k < Secp256k1.n)) : parse s = .error .invalidPrivateKey := by
  have hnone : (PrivateKey.read? s.toList).bind ofKey? = none := by
    rw [Option.bind_eq_none_iff]
    intro key hread
    exact absurd ⟨key.pos, key.lt⟩ (h key.scalar (keyText_iff.2 (ofDigits?_eq_some_iff.1 hread)))
  rw [parse, hnone]

theorem KeyText.unique {m : ℕ} (h : KeyText s k) (h' : KeyText s m) : k = m :=
  (keyText_iff.1 h).2.unique (keyText_iff.1 h').2

end

/-! ## How a key is shown -/

/-- A key is shown by its sixty-four digits in lower case. -/
theorem text_toList (key : PrivateKey) : key.text.toList = (Nat.toDigits 16 key.scalar).leftpad 64 '0' := by
  have horder : Secp256k1.n < Bytes.capacity 32 := by decide
  have hfits : key.scalar < Bytes.capacity 32 := Nat.lt_trans key.lt horder
  rw [PrivateKey.text, PrivateKey.bytes, Hex.encode, String.toList_ofList, Hex.encodeChars_ofNat (by decide) hfits]

theorem denotes_encodeChars {k : ℕ} (h : k < Bytes.capacity 32) :
    (Hex.encodeChars (Bytes.ofNat 32 k)).length = 64 ∧ Hex.Denotes (Hex.encodeChars (Bytes.ofNat 32 k)) k := by
  have hspells := Hex.spells_encodeChars (Bytes.ofNat 32 k)
  have hdenotes := hspells.denotes
  rw [Bytes.toNat_ofNat 32 k h] at hdenotes
  exact ⟨by rw [hspells.length_eq, Bytes.length_ofNat], hdenotes⟩

/-- The digits of a number are a text of it. -/
theorem keyText_encode {k : ℕ} (h : k < Bytes.capacity 32) : KeyText (Hex.encode (Bytes.ofNat 32 k)) k := by
  obtain ⟨hlength, hdenotes⟩ := denotes_encodeChars h
  refine ⟨[], by simp [marks], _, ?_, hlength, hdenotes⟩
  exact ⟨[], [], by simp [Hex.encode], by simp, by simp⟩

/-- What is shown of a key is read as the key. -/
theorem parse_text {signer : Signer} (h : ofKey? signer.key = some signer) : parse signer.key.text = .ok signer := by
  have horder : Secp256k1.n < Bytes.capacity 32 := by decide
  exact parse_eq_ok_iff.2 ⟨keyText_encode (Nat.lt_trans signer.key.lt horder), h⟩

/-! ## Bytes and characters -/

/-- Texts of sixty-four bytes are read as those of sixty-four characters are: one that has a character of more bytes is
refused, however many bytes it has in all. -/
theorem bytes_are_characters (cs : List Char) :
    (Hex.utf8 cs).length = 64 ∧ (∃ b, Hex.decode (Hex.utf8 cs) = .ok b) ↔
      cs.length = 64 ∧ ∃ b, Hex.decode (Hex.utf8 cs) = .ok b := by
  apply and_congr_left
  intro hsome
  obtain ⟨b, hread⟩ := hsome
  rw [Hex.utf8_of_digits (Hex.decode_eq_ok_iff.1 hread).digits, List.length_map]

/-! ## Reading and showing -/

/-- A signer is made from a text exactly if it denotes a number from one up to the order of the group, and has this number
as its key; all other texts are refused, by the same words. It shows its key by the sixty-four digits in lower case, from
which the same signer is made, and signers that show the same are made from texts of the same number. -/
theorem key_texts_exact :
    (∀ s k, KeyText s k → 1 ≤ k → k < Secp256k1.n → ∃ signer, parse s = .ok signer ∧ signer.key.scalar = k) ∧
    (∀ s, (∀ k, KeyText s k → ¬(1 ≤ k ∧ k < Secp256k1.n)) → parse s = .error .invalidPrivateKey) ∧
    (∀ s signer, parse s = .ok signer →
      (KeyText s signer.key.scalar ∧ 1 ≤ signer.key.scalar ∧ signer.key.scalar < Secp256k1.n) ∧
      signer.key.text.toList = (Nat.toDigits 16 signer.key.scalar).leftpad 64 '0' ∧
      parse signer.key.text = .ok signer) ∧
    (∀ s t a b, parse s = .ok a → parse t = .ok b →
      (a.key.text = b.key.text ↔ ∃ k, KeyText s k ∧ KeyText t k)) ∧
    ∀ cs, (Hex.utf8 cs).length = 64 ∧ (∃ b, Hex.decode (Hex.utf8 cs) = .ok b) ↔
      cs.length = 64 ∧ ∃ b, Hex.decode (Hex.utf8 cs) = .ok b := by
  refine ⟨?_, fun s => parse_refused, ?_, ?_, bytes_are_characters⟩
  · intro s k htext hpos hlt
    obtain ⟨signer, hsigner⟩ := exists_ofKey? ⟨k, hpos, hlt⟩
    have hkey := key_of_ofKey? hsigner
    have hscalar : signer.key.scalar = k := by rw [hkey]
    exact ⟨signer, parse_eq_ok_iff.2 ⟨hscalar ▸ htext, hkey ▸ hsigner⟩, hscalar⟩
  · intro s signer hread
    obtain ⟨htext, hsigner⟩ := parse_eq_ok_iff.1 hread
    exact ⟨⟨htext, signer.key.pos, signer.key.lt⟩, text_toList signer.key, parse_text hsigner⟩
  · intro s t a b ha hb
    obtain ⟨hs, hsignerA⟩ := parse_eq_ok_iff.1 ha
    obtain ⟨ht, hsignerB⟩ := parse_eq_ok_iff.1 hb
    constructor
    · intro hsame
      -- What both show is read as the one and as the other.
      have hread := parse_text hsignerA
      rw [hsame, parse_text hsignerB] at hread
      cases hread
      exact ⟨a.key.scalar, hs, ht⟩
    · intro hsome
      obtain ⟨k, hsk, htk⟩ := hsome
      have hscalar : a.key.scalar = b.key.scalar := (hs.unique hsk).trans (htk.unique ht)
      rw [PrivateKey.text, PrivateKey.text, PrivateKey.bytes, PrivateKey.bytes, hscalar]

/-- The greatest key is read from capitals with a mark and blanks, and the least one from digits that are nearly all zeros;
zero, the order, and as many bytes of other letters are refused. -/
theorem key_texts_exact_bounds :
    (∃ signer, parse (String.ofList (['\u3000', '0', 'x'] ++
      (Hex.encodeChars (Bytes.ofNat 32 (Secp256k1.n - 1))).map Char.toUpper ++ ['\n'])) = .ok signer ∧
      signer.key.scalar = Secp256k1.n - 1) ∧
    (∃ signer, parse (Hex.encode (Bytes.ofNat 32 1)) = .ok signer ∧ signer.key.scalar = 1 ∧
      signer.key.text.toList = List.replicate 63 '0' ++ ['1']) ∧
    parse (Hex.encode (Bytes.ofNat 32 0)) = .error .invalidPrivateKey ∧
    parse (Hex.encode (Bytes.ofNat 32 Secp256k1.n)) = .error .invalidPrivateKey ∧
    (Hex.utf8 (List.replicate 32 'é')).length = 64 ∧
    parse (String.ofList (List.replicate 32 'é')) = .error .invalidPrivateKey := by
  obtain ⟨hread, hrefused, hshown, -, -⟩ := key_texts_exact
  refine ⟨?_, ?_, ?_, ?_, by decide, ?_⟩
  · have hcapitals : Hex.Spells ((Hex.encodeChars (Bytes.ofNat 32 (Secp256k1.n - 1))).map Char.toUpper)
        (Bytes.ofNat 32 (Secp256k1.n - 1)) := by
      rw [Hex.spells_iff]
      decide
    have hdenotes := hcapitals.denotes
    rw [Bytes.toNat_ofNat 32 _ (by decide)] at hdenotes
    refine hread _ _ ⟨['0', 'x'], by simp [marks], _, ?_, ?_, hdenotes⟩ (by decide) (by decide)
    · exact ⟨['\u3000'], ['\n'], by simp, by simp [Text.isBlank], by simp [Text.isBlank]⟩
    · rw [hcapitals.length_eq, Bytes.length_ofNat]
  · obtain ⟨signer, hparse, hkey⟩ := hread _ 1 (keyText_encode (by decide)) (by decide) (by decide)
    obtain ⟨-, htext, -⟩ := hshown _ _ hparse
    refine ⟨signer, hparse, hkey, ?_⟩
    rw [htext, hkey]
    decide
  · apply hrefused
    intro k htext hrange
    have hzero : k = 0 := htext.unique (keyText_encode (by decide))
    omega
  · apply hrefused
    intro k htext hrange
    have horder : k = Secp256k1.n := htext.unique (keyText_encode (by decide))
    omega
  · apply hrefused
    intro k htext
    have hlength := (keyText_iff.1 htext).1
    rw [String.toList_ofList] at hlength
    exact absurd hlength (by decide)

end EvmClient.Signer
