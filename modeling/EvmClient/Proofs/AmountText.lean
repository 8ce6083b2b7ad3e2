import EvmClient.Proofs.Numerals
import Mathlib

/-
Amounts as text: what is read, what is shown, and that the two are inverse.

   Base units are read as the floor of what a numeral denotes, in units. They are shown, and a decimal amount is, by
   the shortest digits of their number, with a zero where nothing stands before the point; and there is one such text
   for each number. So everything here goes by way of numbers: a shown text denotes the number that is shown, what is
   read from it has this number, and amounts of the same number are the same.

   1. `parseUnits_exact` — which texts have base units, and which base units these are.
   2. `DecimalAmount.Shortest.eq_of_number` — amounts of the same number are the same.
   3. `exists_shown` — base units are shown as the amount of their number.
   4. `amount_texts_inverse` — reading and showing undo one another. -/
namespace EvmClient

/-! ## What is read -/

namespace DecimalAmount
variable {s : String} {q : ℚ} {a b : DecimalAmount}

theorem parse_of_denotes (h : Denotes s q) : ∃ a, parse s = .ok a ∧ a.Shortest ∧ a.number = q := by
  obtain ⟨body, hframed, hbody⟩ := h
  obtain ⟨a, hread, ha⟩ := read?_of_numeral hbody hframed
  refine ⟨a, ?_, ha⟩
  rw [parse, hread]

theorem denotes_of_parse (h : parse s = .ok a) : Denotes s a.number ∧ a.Shortest := by
  unfold parse at h
  split at h
  · rename_i b hread
    cases h
    obtain ⟨hnumeral, ha⟩ := numeral_of_read? hread
    exact ⟨⟨_, Text.trim_framed s.toList, hnumeral⟩, ha⟩
  · cases h

/-- What is not read as an amount is refused as one. -/
theorem parse_error {e : ClientError} (h : parse s = .error e) : ∃ text, e = .invalidAmount text := by
  unfold parse at h
  split at h
  · cases h
  · cases h
    exact ⟨_, rfl⟩

theorem Shortest.baseUnits (ha : a.Shortest) (decimals : ℕ) :
    a.baseUnits decimals =
      if ⌊a.number * 10 ^ decimals⌋₊ < Word256.size then .ok (BitVec.ofNat 256 ⌊a.number * 10 ^ decimals⌋₊)
      else .error (.invalidAmount a.text) := by
  rw [DecimalAmount.baseUnits, value_unitDigits ha.digits]

end DecimalAmount

theorem Denotes.unique {s : String} {p q : ℚ} (hp : Denotes s p) (hq : Denotes s q) : p = q := by
  obtain ⟨a, hparse, -, rfl⟩ := DecimalAmount.parse_of_denotes hp
  obtain ⟨b, hparse', -, rfl⟩ := DecimalAmount.parse_of_denotes hq
  rw [hparse] at hparse'
  cases hparse'
  rfl

theorem parseUnits_of_parse {s : String} {a : DecimalAmount} (h : DecimalAmount.parse s = .ok a) (decimals : ℕ) :
    parseUnits s decimals = a.baseUnits decimals := by
  rw [parseUnits, h]
  rfl

/-- What denotes a number has the floor of its units, if 256 bits hold it. -/
theorem parseUnits_of_denotes {s : String} {q : ℚ} (h : Denotes s q) (decimals : ℕ) :
    ∃ text, parseUnits s decimals =
      if ⌊q * 10 ^ decimals⌋₊ < 2 ^ 256 then .ok (BitVec.ofNat 256 ⌊q * 10 ^ decimals⌋₊)
      else .error (.invalidAmount text) := by
  obtain ⟨a, hparse, ha, rfl⟩ := DecimalAmount.parse_of_denotes h
  have hsize : Word256.size = 2 ^ 256 := by decide
  refine ⟨a.text, ?_⟩
  rw [parseUnits_of_parse hparse, ha.baseUnits, hsize]

/-- What denotes nothing is refused. -/
theorem parseUnits_of_not_denotes {s : String} (h : ¬∃ q, Denotes s q) (decimals : ℕ) :
    ∃ text, parseUnits s decimals = .error (.invalidAmount text) := by
  cases hparse : DecimalAmount.parse s with
  | error e =>
    obtain ⟨text, rfl⟩ := DecimalAmount.parse_error hparse
    refine ⟨text, ?_⟩
    rw [parseUnits, hparse]
    rfl
  | ok a => exact absurd ⟨a.number, (DecimalAmount.denotes_of_parse hparse).1⟩ h

/-- A text has base units exactly if it denotes a number, with blanks around the numeral or none, whose floor in units
takes no more than 256 bits; the base units are this floor. Every other text is refused as an invalid amount. -/
theorem parseUnits_exact (s : String) (decimals : ℕ) :
    (∀ n : Word256, parseUnits s decimals = .ok n ↔ ∃ q, Denotes s q ∧ n.toNat = ⌊q * 10 ^ decimals⌋₊) ∧
    ((∃ text, parseUnits s decimals = .error (.invalidAmount text)) ↔
      ¬∃ q, Denotes s q ∧ ⌊q * 10 ^ decimals⌋₊ < 2 ^ 256) := by
  by_cases h : ∃ q, Denotes s q
  · obtain ⟨q, hq⟩ := h
    have honly : ∀ P : ℚ → Prop, (∃ p, Denotes s p ∧ P p) ↔ P q := by
      intro P
      constructor
      · rintro ⟨p, hp, hP⟩
        rwa [hq.unique hp]
      · exact fun hP => ⟨q, hq, hP⟩
    obtain ⟨text, hunits⟩ := parseUnits_of_denotes hq decimals
    rw [hunits, honly]
    simp only [honly]
    by_cases hfits : ⌊q * 10 ^ decimals⌋₊ < 2 ^ 256
    · rw [if_pos hfits]
      refine ⟨fun n => ?_, ?_, fun h => absurd hfits h⟩
      · rw [Except.ok.injEq, ← BitVec.toNat_inj, BitVec.toNat_ofNat, Nat.mod_eq_of_lt hfits, eq_comm]
      · rintro ⟨_, h⟩
        cases h
    · rw [if_neg hfits]
      refine ⟨fun n => ⟨fun h => ?_, fun hn => ?_⟩, fun _ => hfits, fun _ => ⟨text, rfl⟩⟩
      · cases h
      · exact absurd (hn ▸ n.isLt) hfits
  · obtain ⟨text, hunits⟩ := parseUnits_of_not_denotes h decimals
    rw [hunits]
    have hnone : ∀ P : ℚ → Prop, ¬∃ p, Denotes s p ∧ P p := by
      rintro P ⟨p, hp, -⟩
      exact h ⟨p, hp⟩
    simp [hnone]

/-- What is too small for a unit is cut off. -/
example : parseUnits " 1.239 " 2 = .ok 123 := by decide

/-! ## Amounts by their numbers -/

namespace DecimalAmount
variable {s : String} {a b : DecimalAmount}

theorem stripFront_of_head? {i : List Char} (h : i.head? ≠ some '0') : stripFront i = i := by
  cases i with
  | nil => rfl
  | cons c i =>
    have hc : ¬isZeroDigit c = true := fun hzero => h (by rw [List.head?_cons, eq_of_isZeroDigit hzero])
    exact List.dropWhile_cons_of_neg hc

theorem stripFront_zeros_append {i : List Char} (k : ℕ) (h : i.head? ≠ some '0') :
    stripFront (List.replicate k '0' ++ i) = i := by
  have hzeros : ∀ c ∈ List.replicate k '0', isZeroDigit c = true := by
    intro c hc
    rw [List.eq_of_mem_replicate hc]
    rfl
  rw [stripFront, List.dropWhile_append_of_pos hzeros]
  exact stripFront_of_head? h

theorem stripBack_append_zeros {f : List Char} (k : ℕ) (h : f.getLast? ≠ some '0') :
    stripBack (f ++ List.replicate k '0') = f := by
  rw [← List.head?_reverse] at h
  rw [stripBack_eq, List.reverse_append, List.reverse_replicate, stripFront_zeros_append k h, List.reverse_reverse]

/-- The digits of an amount with more zeros in front and behind. -/
def filled (front back : ℕ) (a : DecimalAmount) : List Char :=
  List.replicate front '0' ++ a.integer ++ (a.fraction ++ List.replicate back '0')

theorem denoted_filled (front back : ℕ) (a : DecimalAmount) :
    Decimal.denoted (a.filled front back) = Decimal.denoted (a.integer ++ a.fraction) * 10 ^ back := by
  rw [filled, ← List.append_assoc, List.append_assoc _ a.integer, Decimal.denoted_append,
    Decimal.denoted_append (List.replicate front '0'), Decimal.denoted_zeros, Decimal.denoted_zeros, List.length_replicate,
    Nat.zero_mul, Nat.zero_add, Nat.add_zero]

theorem Shortest.isDigit_filled (ha : a.Shortest) (front back : ℕ) : ∀ c ∈ a.filled front back, c.isDigit = true := by
  intro c hc
  have hzero : ∀ n, c ∈ List.replicate n '0' → c.isDigit = true := by
    intro n hn
    rw [List.eq_of_mem_replicate hn]
    rfl
  rcases List.mem_append.1 hc with hfront | hback
  · rcases List.mem_append.1 hfront with hzeros | hinteger
    · exact hzero _ hzeros
    · exact ha.digits c (List.mem_append_left _ hinteger)
  · rcases List.mem_append.1 hback with hfraction | hzeros
    · exact ha.digits c (List.mem_append_right _ hfraction)
    · exact hzero _ hzeros

/-- Amounts of the same number are the same. -/
theorem Shortest.eq_of_number (ha : a.Shortest) (hb : b.Shortest) (h : a.number = b.number) : a = b := by
  -- With zeros in front and behind, both have as many digits as one another.
  have hdenoted : Decimal.denoted (a.integer ++ a.fraction) * 10 ^ b.fraction.length =
      Decimal.denoted (b.integer ++ b.fraction) * 10 ^ a.fraction.length := by
    rw [number, number, div_eq_div_iff (by positivity) (by positivity)] at h
    exact_mod_cast h
  have hfilled : a.filled b.integer.length b.fraction.length = b.filled a.integer.length a.fraction.length := by
    refine Decimal.denoted_inj (ha.isDigit_filled _ _) (hb.isDigit_filled _ _) ?_ ?_
    · simp only [filled, List.length_append, List.length_replicate]
      omega
    · rw [denoted_filled, denoted_filled, hdenoted]
  have hback : (a.fraction ++ List.replicate b.fraction.length '0').length =
      (b.fraction ++ List.replicate a.fraction.length '0').length := by
    simp only [List.length_append, List.length_replicate]
    omega
  obtain ⟨hfronts, hbacks⟩ := List.append_inj' hfilled hback
  have hinteger := congrArg stripFront hfronts
  have hfraction := congrArg stripBack hbacks
  rw [stripFront_zeros_append _ ha.front, stripFront_zeros_append _ hb.front] at hinteger
  rw [stripBack_append_zeros _ ha.back, stripBack_append_zeros _ hb.back] at hfraction
  cases a
  cases b
  exact congrArg₂ DecimalAmount.mk hinteger hfraction

/-- The units of an amount are exact where its fraction has no more digits than there are decimals. -/
theorem floor_of_fraction_le {decimals : ℕ} (h : a.fraction.length ≤ decimals) :
    (⌊a.number * 10 ^ decimals⌋₊ : ℚ) = a.number * 10 ^ decimals := by
  have hexact : a.number * 10 ^ decimals =
      (Decimal.denoted (a.integer ++ a.fraction) * 10 ^ (decimals - a.fraction.length) : ℕ) := by
    calc a.number * 10 ^ decimals
        = a.number * 10 ^ a.fraction.length * 10 ^ (decimals - a.fraction.length) := by
          rw [mul_assoc, ← pow_add, Nat.add_sub_cancel' h]
      _ = Decimal.denoted (a.integer ++ a.fraction) * 10 ^ (decimals - a.fraction.length) := by
          rw [number, div_mul_cancel₀ _ (by positivity)]
      _ = _ := by push_cast; rfl
  rw [hexact, Nat.floor_natCast]

/-- An amount is shown by a numeral of its number. -/
theorem Shortest.numeral_chars (ha : a.Shortest) : Numeral a.chars a.number := by
  obtain ⟨i, f⟩ := a
  -- A zero stands before the point where no other digit does.
  obtain ⟨i', hi', hdigits, hsome, hdenoted⟩ : ∃ i', (if i = [] then ['0'] else i) = i' ∧
      (∀ c ∈ i' ++ f, c.isDigit = true) ∧ i' ≠ [] ∧ Decimal.denoted (i' ++ f) = Decimal.denoted (i ++ f) := by
    by_cases hi : i = []
    · subst hi
      refine ⟨['0'], rfl, ?_, by simp, ?_⟩
      · intro c hc
        rcases List.mem_cons.1 hc with rfl | hc
        · rfl
        · exact ha.digits c hc
      · rw [Decimal.denoted_append]
        exact (congrArg (· + _) (Nat.zero_mul _)).trans (Nat.zero_add _)
    · exact ⟨i, if_neg hi, ha.digits, hi, rfl⟩
  rw [chars, number, ← hdenoted]
  dsimp only
  rw [hi']
  split
  · rename_i hf
    subst hf
    rw [List.append_nil] at hdigits ⊢
    simpa using Numeral.whole hdigits hsome
  · exact .point hdigits (by simp [hsome])

theorem Shortest.denotes_text (ha : a.Shortest) : Denotes a.text a.number := by
  refine ⟨a.chars, ⟨[], [], ?_, by simp, by simp⟩, ha.numeral_chars⟩
  rw [text, String.toList_ofList]
  simp

/-- What is shown of an amount is read as the amount. -/
theorem Shortest.parse_text (ha : a.Shortest) : parse a.text = .ok a := by
  obtain ⟨b, hparse, hb, hnumber⟩ := parse_of_denotes ha.denotes_text
  rw [hparse, hb.eq_of_number ha hnumber]

end DecimalAmount

/-! ## What is shown of base units -/

/-- The digits of a number, with zeros in front so that one stands before the point. -/
def paddedDigits (value decimals : ℕ) : List Char :=
  List.replicate (decimals + 1 - (Decimal.digits value).length) '0' ++ Decimal.digits value

theorem isDigit_paddedDigits (value decimals : ℕ) : ∀ c ∈ paddedDigits value decimals, c.isDigit = true := by
  intro c hc
  rcases List.mem_append.1 hc with hzero | hdigit
  · rw [List.eq_of_mem_replicate hzero]
    rfl
  · exact Decimal.isDigit_digits _ c hdigit

theorem denoted_paddedDigits (value decimals : ℕ) : Decimal.denoted (paddedDigits value decimals) = value := by
  rw [paddedDigits, ← Decimal.value_eq_denoted, Decimal.value_zeros_append]
  exact (Decimal.digits_spec value).2.2

/-- Before the point stands a single zero, or no zero first. -/
theorem take_paddedDigits (value decimals : ℕ) :
    let before := (paddedDigits value decimals).take ((paddedDigits value decimals).length - decimals)
    before = ['0'] ∨ before ≠ [] ∧ before.head? ≠ some '0' := by
  intro before
  have hsome := List.length_pos_iff.2 (Decimal.digits_spec value).1
  by_cases hshort : (Decimal.digits value).length ≤ decimals
  · left
    have hlength : (paddedDigits value decimals).length - decimals = 1 := by
      rw [paddedDigits, List.length_append, List.length_replicate]
      omega
    have hzeros : decimals + 1 - (Decimal.digits value).length = decimals - (Decimal.digits value).length + 1 := by omega
    show (paddedDigits value decimals).take ((paddedDigits value decimals).length - decimals) = ['0']
    rw [hlength, paddedDigits, hzeros, List.replicate_succ]
    rfl
  · have hpadded : paddedDigits value decimals = Decimal.digits value := by
      rw [paddedDigits, Nat.sub_eq_zero_of_le (by omega)]
      rfl
    obtain ⟨k, hk⟩ : ∃ k, (Decimal.digits value).length - decimals = k + 1 :=
      ⟨(Decimal.digits value).length - decimals - 1, by omega⟩
    have hbefore : before = (Decimal.digits value).take (k + 1) := by
      show (paddedDigits value decimals).take ((paddedDigits value decimals).length - decimals) = _
      rw [hpadded, hk]
    rw [hbefore]
    rcases Nat.eq_zero_or_pos value with rfl | hpos
    · left
      show ['0'].take (k + 1) = ['0']
      simp
    · right
      have hhead := Decimal.head?_digits hpos
      obtain ⟨c, rest, hc⟩ := List.exists_cons_of_ne_nil (Decimal.digits_spec value).1
      rw [hc] at hhead ⊢
      exact ⟨by simp, hhead⟩

theorem unitChars_eq (value : Word256) (decimals : ℕ) :
    unitChars value decimals =
      let padded := paddedDigits value.toNat decimals
      let point := padded.length - decimals
      let fraction := DecimalAmount.stripBack (padded.drop point)
      if fraction = [] then padded.take point else padded.take point ++ '.' :: fraction := by
  rw [unitChars]
  by_cases h : decimals = 0
  · -- Without decimals nothing stands behind the point.
    subst h
    have hsome := List.length_pos_iff.2 (Decimal.digits_spec value.toNat).1
    have hpadded : paddedDigits value.toNat 0 = Decimal.digits value.toNat := by
      rw [paddedDigits, Nat.sub_eq_zero_of_le (by omega)]
      rfl
    dsimp only
    rw [if_pos rfl, hpadded, Nat.sub_zero, List.drop_length, List.take_length]
    rfl
  · dsimp only
    rw [if_neg h]
    rfl

/-- Base units are shown as the amount of their number. -/
theorem exists_shown (value : Word256) (decimals : ℕ) :
    ∃ a : DecimalAmount, a.Shortest ∧ a.number = value.toNat / 10 ^ decimals ∧ formatUnits value decimals = a.text := by
  let padded := paddedDigits value.toNat decimals
  let point := padded.length - decimals
  have hwhole : padded.take point ++ padded.drop point = padded := List.take_append_drop point padded
  have hlength : (padded.drop point).length = decimals := by
    have hpadded : decimals + 1 ≤ padded.length := by
      simp only [padded, paddedDigits, List.length_append, List.length_replicate]
      omega
    rw [List.length_drop]
    omega
  refine ⟨⟨DecimalAmount.stripFront (padded.take point), DecimalAmount.stripBack (padded.drop point)⟩, ?_, ?_, ?_⟩
  · apply DecimalAmount.shortest_strip
    rw [hwhole]
    exact isDigit_paddedDigits _ _
  · rw [DecimalAmount.number_strip, hwhole, hlength, denoted_paddedDigits]
  · have hbefore : (if DecimalAmount.stripFront (padded.take point) = [] then ['0']
        else DecimalAmount.stripFront (padded.take point)) = padded.take point := by
      obtain hzero | ⟨hsome, hhead⟩ : padded.take point = ['0'] ∨ padded.take point ≠ [] ∧ _ :=
        take_paddedDigits value.toNat decimals
      · rw [hzero]
        rfl
      · rw [DecimalAmount.stripFront_of_head? hhead, if_neg hsome]
    rw [formatUnits, unitChars_eq, DecimalAmount.text, DecimalAmount.chars]
    dsimp only
    rw [hbefore]

/-- Base units are read again as they are shown. -/
theorem parseUnits_formatUnits (value : Word256) (decimals : ℕ) :
    parseUnits (formatUnits value decimals) decimals = .ok value := by
  obtain ⟨a, ha, hnumber, htext⟩ := exists_shown value decimals
  rw [htext, (parseUnits_exact _ decimals).1]
  refine ⟨a.number, ha.denotes_text, ?_⟩
  rw [hnumber, div_mul_cancel₀ _ (by positivity), Nat.floor_natCast]

/-- An amount whose base units are exact is shown as they are. -/
theorem formatUnits_of_parseUnits {s : String} {a : DecimalAmount} (hparse : DecimalAmount.parse s = .ok a)
    {decimals : ℕ} (hfraction : a.fraction.length ≤ decimals) {n : Word256} (hunits : parseUnits s decimals = .ok n) :
    formatUnits n decimals = a.text := by
  obtain ⟨hdenotes, ha⟩ := DecimalAmount.denotes_of_parse hparse
  obtain ⟨q, hq, hn⟩ := ((parseUnits_exact s decimals).1 n).1 hunits
  obtain ⟨b, hb, hnumber, htext⟩ := exists_shown n decimals
  rw [hq.unique hdenotes] at hn
  have hsame : b.number = a.number := by
    rw [hnumber, hn, DecimalAmount.floor_of_fraction_le hfraction, mul_div_cancel_right₀ _ (by positivity)]
  rw [htext, hb.eq_of_number ha hsame]

/-- The texts of two amounts are the same exactly if what they were read from denotes the same number. -/
theorem text_eq_iff {s t : String} {a b : DecimalAmount} (hs : DecimalAmount.parse s = .ok a)
    (ht : DecimalAmount.parse t = .ok b) : a.text = b.text ↔ ∃ q, Denotes s q ∧ Denotes t q := by
  obtain ⟨hdenotes, ha⟩ := DecimalAmount.denotes_of_parse hs
  obtain ⟨hdenotes', hb⟩ := DecimalAmount.denotes_of_parse ht
  constructor
  · intro htext
    have hsame := ha.parse_text
    rw [htext, hb.parse_text] at hsame
    cases hsame
    exact ⟨a.number, hdenotes, hdenotes'⟩
  · rintro ⟨q, hq, hq'⟩
    have hnumber : a.number = b.number := (hdenotes.unique hq).trans (hq'.unique hdenotes')
    rw [ha.eq_of_number hb hnumber]

/-- Base units are read again as they are shown. What is shown of an amount is read as the amount; where its base units
are exact they are shown in the same way; and the texts of two amounts are the same exactly if the texts that they were
read from denote the same number. -/
theorem amount_texts_inverse :
    (∀ (value : Word256) (decimals : ℕ), parseUnits (formatUnits value decimals) decimals = .ok value) ∧
    ∀ s a, DecimalAmount.parse s = .ok a →
      (∀ decimals n, a.fraction.length ≤ decimals → parseUnits s decimals = .ok n → formatUnits n decimals = a.text) ∧
      DecimalAmount.parse a.text = .ok a ∧
      ∀ t b, DecimalAmount.parse t = .ok b → (a.text = b.text ↔ ∃ q, Denotes s q ∧ Denotes t q) := by
  refine ⟨parseUnits_formatUnits, fun s a hparse => ⟨?_, ?_, ?_⟩⟩
  · intro decimals n hfraction hunits
    exact formatUnits_of_parseUnits hparse hfraction hunits
  · exact (DecimalAmount.denotes_of_parse hparse).2.parse_text
  · intro t b ht
    exact text_eq_iff hparse ht

/-- The same number with zeros around it. -/
theorem amount_texts_inverse_zeros :
    let a : DecimalAmount := ⟨"120".toList, "5".toList⟩
    DecimalAmount.parse " 000120.5000" = .ok a ∧ DecimalAmount.parse "120.5" = .ok a ∧ formatUnits 12050 2 = "120.5" ∧
      ∃ q, Denotes " 000120.5000" q ∧ Denotes "120.5" q := by
  intro a
  have hs : DecimalAmount.parse " 000120.5000" = .ok a := by decide
  have ht : DecimalAmount.parse "120.5" = .ok a := by decide
  have hunits : parseUnits " 000120.5000" 2 = .ok 12050 := by decide
  obtain ⟨hshown, -, hsame⟩ := amount_texts_inverse.2 _ a hs
  exact ⟨hs, ht, hshown 2 12050 (by decide) hunits, (hsame _ a ht).1 rfl⟩

end EvmClient
