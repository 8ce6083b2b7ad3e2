import EvmClient.Proofs.Durability
import EvmClient.Proofs.TokenCalls

/-
Symbols of tokens are read from either of two conventions, and no answer has a reading in both.

   A contract answers with the canonical encoding of a text or, by an older convention, with 32 bytes that stand for
   those before the first zero. An encoding has at least two words, so it is never 32 bytes long: what an answer stands
   for is told by its length alone, and it is one text or none.

   1. `encoded_iff`, `Encoded.length_ge` — a text has one encoding, which is longer than a word.
   2. `textBytes?_eq_some_iff`, `symbolText?_eq_some_iff` — the encoded texts that are read are those of UTF-8.
   3. `frontOf_iff` — the bytes before the first zero.
   4. `symbols_unambiguous` — both conventions, and all other answers. -/
namespace EvmClient.Token

/-! ## Encoded texts -/

/-- The canonical encoding of a text's bytes: a word of the place at which their number stands, a word of their number,
and the bytes, padded by zeros to whole words. -/
inductive Encoded (text : Bytes) : Bytes → Prop where
  | canonical {place number : Bytes} {padding : Nat} (place_word : place.length = 32 ∧ Bytes.toNat place = 32)
    (number_word : number.length = 32 ∧ Bytes.toNat number = text.length)
    (least : padding < 32) (whole : (text.length + padding) % 32 = 0) :
    Encoded text (place ++ number ++ text ++ List.replicate padding 0)

variable {text data : Bytes}

theorem length_numberWord (n : Nat) : (numberWord n).length = 32 := Bytes.length_ofNat 32 n

/-- A text has one encoding, if a word has room for the number of its bytes. -/
theorem encoded_iff : Encoded text data ↔ text.length < Bytes.capacity 32 ∧ data = encodeText text := by
  constructor
  · intro h
    cases h with
    | @canonical place number padding hplace hnumber hleast hwhole =>
      have hroom : text.length < Bytes.capacity 32 := by
        have hlt := Bytes.toNat_lt number
        rwa [hnumber.1, hnumber.2] at hlt
      have hplace : place = numberWord 32 := (Bytes.eq_ofNat_iff (by decide)).2 hplace
      have hnumber : number = numberWord text.length := (Bytes.eq_ofNat_iff hroom).2 hnumber
      have hpadding : padding = (32 - text.length % 32) % 32 := by omega
      refine ⟨hroom, ?_⟩
      rw [hplace, hnumber, hpadding]
      rfl
  · rintro ⟨hroom, rfl⟩
    refine .canonical ((Bytes.eq_ofNat_iff (by decide)).1 rfl) ((Bytes.eq_ofNat_iff hroom).1 rfl) ?_ ?_
    · omega
    · omega

theorem length_encodeText (text : Bytes) : 64 ≤ (encodeText text).length := by
  simp only [encodeText, List.length_append, length_numberWord]
  omega

theorem Encoded.length_ge (h : Encoded text data) : 64 ≤ data.length := by
  rw [(encoded_iff.1 h).2]
  exact length_encodeText text

/-- The second word of an encoding. -/
theorem number_of_encodeText (text : Bytes) : ((encodeText text).drop 32).take 32 = numberWord text.length := by
  rw [encodeText, List.append_assoc, List.append_assoc, List.drop_left' (length_numberWord 32),
    List.take_left' (length_numberWord text.length)]

/-- What follows the two words of an encoding. -/
theorem content_of_encodeText (text : Bytes) : ((encodeText text).drop 64).take text.length = text := by
  have hwords : (numberWord 32 ++ numberWord text.length).length = 64 := by
    rw [List.length_append, length_numberWord, length_numberWord]
  rw [encodeText, List.append_assoc, List.drop_left' hwords, List.take_left' rfl]

/-- The bytes that are read are those that the answer is the encoding of. -/
theorem textBytes?_eq_some_iff : textBytes? data = some text ↔ Encoded text data := by
  rw [encoded_iff]
  unfold textBytes?
  constructor
  · intro h
    dsimp only at h
    split at h
    · rename_i hdata
      cases h
      refine ⟨?_, hdata⟩
      -- No more bytes are taken than the second word says, and it is a word.
      have htaken := List.length_take_le (Bytes.toNat ((data.drop 32).take 32)) (data.drop 64)
      have hword := Bytes.toNat_lt ((data.drop 32).take 32)
      rw [hdata, number_of_encodeText, length_numberWord, ← number_of_encodeText, ← hdata] at hword
      exact Nat.lt_of_le_of_lt htaken hword
    · cases h
  · rintro ⟨hroom, rfl⟩
    have hnumber : Bytes.toNat (numberWord text.length) = text.length := Bytes.toNat_ofNat 32 _ hroom
    dsimp only
    rw [number_of_encodeText, hnumber, content_of_encodeText, if_pos rfl]

theorem utf8?_eq_some_iff {b : Bytes} {s : String} : utf8? b = some s ↔ b = Hex.utf8 s.toList := fromUTF8?_eq_some_iff

/-- The text of an answer that is the encoding of one. -/
theorem symbolText?_eq_some_iff {s : String} : (textBytes? data).bind utf8? = some s ↔ Encoded (Hex.utf8 s.toList) data := by
  constructor
  · intro h
    obtain ⟨text, htext, hutf8⟩ := Option.bind_eq_some_iff.1 h
    rw [← utf8?_eq_some_iff.1 hutf8]
    exact textBytes?_eq_some_iff.1 htext
  · intro h
    exact Option.bind_eq_some_iff.2 ⟨_, textBytes?_eq_some_iff.2 h, utf8?_eq_some_iff.2 rfl⟩

theorem textBytes?_word (h : data.length = 32) : textBytes? data = none := by
  apply Option.eq_none_iff_forall_ne_some.2
  intro text htext
  have hlength := (textBytes?_eq_some_iff.1 htext).length_ge
  omega

/-! ## The bytes before the first zero -/

/-- The bytes before the first zero, and all bytes where there is none. -/
structure FrontOf (front data : Bytes) : Prop where
  nonzero : ∀ x ∈ front, x ≠ 0
  ends : front = data ∨ ∃ rest, data = front ++ 0 :: rest

theorem frontOf_iff {front : Bytes} : FrontOf front data ↔ front = data.takeWhile (· != 0) := by
  constructor
  · rintro ⟨hnonzero, hends⟩
    have hall : ∀ x ∈ front, (x != 0) = true := fun x hx => bne_iff_ne.2 (hnonzero x hx)
    rcases hends with rfl | ⟨rest, rfl⟩
    · have hwhole : (front ++ []).takeWhile (· != 0) = front ++ [] := List.takeWhile_append_of_pos hall
      rw [List.append_nil] at hwhole
      exact hwhole.symm
    · rw [List.takeWhile_append_of_pos hall, List.takeWhile_cons_of_neg (by decide), List.append_nil]
  · rintro rfl
    refine ⟨fun x hx => bne_iff_ne.1 (List.all_eq_true.1 List.all_takeWhile x hx), ?_⟩
    have hsplit := List.takeWhile_append_dropWhile (p := fun x : UInt8 => x != 0) (l := data)
    cases hrest : data.dropWhile (· != 0) with
    | nil =>
      rw [hrest, List.append_nil] at hsplit
      exact .inl hsplit
    | cons x rest =>
      have hhead := List.head?_dropWhile_not (fun x : UInt8 => x != 0) data
      rw [hrest] at hhead
      have hzero : x = 0 := by simpa using hhead
      rw [hrest, hzero] at hsplit
      exact .inr ⟨rest, hsplit.symm⟩

/-! ## Symbols -/

theorem decodeSymbol_encoded {s : String} (h : Encoded (Hex.utf8 s.toList) data) : decodeSymbol data = .ok s := by
  rw [decodeSymbol, symbolText?_eq_some_iff.2 h]

theorem decodeSymbol_word {front : Bytes} {s : String} (hlength : data.length = 32) (hfront : FrontOf front data) :
    decodeSymbol data = .ok s ↔ front = Hex.utf8 s.toList := by
  rw [decodeSymbol, textBytes?_word hlength, Option.bind_none, frontOf_iff.1 hfront, ← utf8?_eq_some_iff]
  dsimp only
  rw [if_pos hlength]
  cases utf8? (data.takeWhile (· != 0)) with
  | none => simp
  | some text => simp

theorem decodeSymbol_other {s : String} (hlength : data.length ≠ 32) (h : decodeSymbol data = .ok s) :
    Encoded (Hex.utf8 s.toList) data := by
  unfold decodeSymbol at h
  split at h
  · rename_i text htext
    cases h
    exact symbolText?_eq_some_iff.1 htext
  · rw [if_neg hlength] at h
    cases h

theorem decodeSymbol_error {e : ClientError} (h : decodeSymbol data = .error e) : ∃ reason, e = .abi reason := by
  unfold decodeSymbol at h
  split at h
  · cases h
  · split at h
    · split at h
      · cases h
      · cases h
        exact ⟨_, rfl⟩
    · cases h
      exact ⟨_, rfl⟩

/-- What is read as no symbol is refused as such. -/
theorem decodeSymbol_refused (h : ∀ s, decodeSymbol data ≠ .ok s) : ∃ reason, decodeSymbol data = .error (.abi reason) := by
  cases hread : decodeSymbol data with
  | ok s => exact absurd hread (h s)
  | error e =>
    obtain ⟨reason, rfl⟩ := decodeSymbol_error hread
    exact ⟨reason, rfl⟩

/-- The encoding of a text is read as the text. It is never 32 bytes long: such an answer is read as the text of the
bytes before its first zero, and refused where they are no UTF-8. All other answers are refused. -/
theorem symbols_unambiguous :
    (∀ s : String, (Hex.utf8 s.toList).length < Bytes.capacity 32 →
      Encoded (Hex.utf8 s.toList) (encodeText (Hex.utf8 s.toList))) ∧
    (∀ (s : String) data, Encoded (Hex.utf8 s.toList) data → data.length ≠ 32 ∧ decodeSymbol data = .ok s) ∧
    (∀ data front, data.length = 32 → FrontOf front data →
      textBytes? data = none ∧ (∀ s : String, decodeSymbol data = .ok s ↔ front = Hex.utf8 s.toList) ∧
        ((∀ s : String, front ≠ Hex.utf8 s.toList) → ∃ reason, decodeSymbol data = .error (.abi reason))) ∧
    ∀ data, data.length ≠ 32 → (∀ s : String, ¬Encoded (Hex.utf8 s.toList) data) →
      ∃ reason, decodeSymbol data = .error (.abi reason) := by
  refine ⟨?_, ?_, ?_, ?_⟩
  · intro s hroom
    exact encoded_iff.2 ⟨hroom, rfl⟩
  · intro s data h
    have hlength := h.length_ge
    exact ⟨by omega, decodeSymbol_encoded h⟩
  · intro data front hlength hfront
    refine ⟨textBytes?_word hlength, fun s => decodeSymbol_word hlength hfront, ?_⟩
    intro hnone
    apply decodeSymbol_refused
    intro s hread
    exact hnone s ((decodeSymbol_word hlength hfront).1 hread)
  · intro data hlength hnone
    apply decodeSymbol_refused
    intro s hread
    exact hnone s (decodeSymbol_other hlength hread)

/-- One symbol in each convention, a word that is no UTF-8, and zeros that are one byte too many. -/
theorem symbols_unambiguous_both :
    decodeSymbol (encodeText (Hex.utf8 ['F', 'I', 'B', 'O'])) = .ok (String.ofList ['F', 'I', 'B', 'O']) ∧
      decodeSymbol (Hex.utf8 ['M', 'K', 'R'] ++ 0 :: List.replicate 28 0) = .ok (String.ofList ['M', 'K', 'R']) ∧
      (∃ reason, decodeSymbol ([0xff] ++ 0 :: List.replicate 30 0) = .error (.abi reason)) ∧
      ∃ reason, decodeSymbol (List.replicate 33 0) = .error (.abi reason) := by
  obtain ⟨hroom, hencoded, hword, hother⟩ := symbols_unambiguous
  refine ⟨?_, ?_, ?_, ?_⟩
  · have hfibo := hroom (String.ofList ['F', 'I', 'B', 'O'])
    have hread := hencoded (String.ofList ['F', 'I', 'B', 'O']) (encodeText (Hex.utf8 ['F', 'I', 'B', 'O']))
    rw [String.toList_ofList] at hfibo hread
    exact (hread (hfibo (by decide))).2
  · have hfront : FrontOf (Hex.utf8 ['M', 'K', 'R']) (Hex.utf8 ['M', 'K', 'R'] ++ 0 :: List.replicate 28 0) :=
      frontOf_iff.2 (by decide)
    rw [(hword _ _ (by decide) hfront).2.1, String.toList_ofList]
  · have hfront : FrontOf [0xff] ([0xff] ++ 0 :: List.replicate 30 0) := frontOf_iff.2 (by decide)
    apply (hword _ _ (by decide) hfront).2.2
    intro s hs
    have hread := utf8?_eq_some_iff.2 hs
    have hnone : utf8? [0xff] = none := by decide
    rw [hnone] at hread
    cases hread
  · apply hother _ (by decide)
    intro s h
    have hlength := h.length_ge
    rw [List.length_replicate] at hlength
    omega

end EvmClient.Token
