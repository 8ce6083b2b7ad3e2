import EvmClient.Amount
import EvmClient.Proofs.Durability
import Mathlib

/-
Decimal numerals, and what the amounts that are read from them are.

   A numeral is a text of digits with at most one point and at least one digit, and it denotes a rational number: its
   digits by their places, over a power of ten for those behind the point. Any text of digits may stand before and
   behind the point, so many numerals denote one number; an amount keeps the shortest of them.

   1. `Decimal.value_eq_denoted`, `Decimal.denoted_inj` — digits read from the left denote what their places say, and
      the number of digits and what they denote tell the digits.
   2. `DecimalAmount.read?_of_numeral`, `DecimalAmount.numeral_of_read?` — what is read is exactly the numerals.
   3. `DecimalAmount.value_unitDigits` — the base units of an amount are the floor of its number in units. -/
namespace EvmClient

/-! ## Blanks around a text -/

namespace Text

/-- There is nothing but blanks before and behind the text. -/
def Framed (body cs : List Char) : Prop :=
  ∃ before behind, cs = before ++ body ++ behind ∧ (∀ c ∈ before, isBlank c = true) ∧ ∀ c ∈ behind, isBlank c = true

/-- A text that does not begin with a blank stays as it is. -/
theorem dropWhile_isBlank {cs rest : List Char} (hne : cs ≠ []) (h : ∀ c ∈ cs, isBlank c = false) :
    (cs ++ rest).dropWhile isBlank = cs ++ rest := by
  obtain ⟨c, cs, rfl⟩ := List.exists_cons_of_ne_nil hne
  exact List.dropWhile_cons_of_neg (by simp [h c List.mem_cons_self])

theorem trim_framed (cs : List Char) : Framed (trim cs) cs := by
  refine ⟨cs.takeWhile isBlank, ((trimStart cs).reverse.takeWhile isBlank).reverse, ?_, ?_, ?_⟩
  · have hbehind : trimStart cs = trim cs ++ ((trimStart cs).reverse.takeWhile isBlank).reverse := by
      rw [trim, trimEnd, ← List.reverse_append, List.takeWhile_append_dropWhile, List.reverse_reverse]
    rw [List.append_assoc, ← hbehind, trimStart, List.takeWhile_append_dropWhile]
  · exact List.all_eq_true.1 List.all_takeWhile
  · intro c hc
    exact List.all_eq_true.1 List.all_takeWhile c (List.mem_reverse.1 hc)

theorem trim_of_framed {body cs : List Char} (h : Framed body cs) (hne : body ≠ [])
    (hbody : ∀ c ∈ body, isBlank c = false) : trim cs = body := by
  obtain ⟨before, behind, rfl, hbefore, hbehind⟩ := h
  have hstart : trimStart (before ++ body ++ behind) = body ++ behind := by
    rw [trimStart, List.append_assoc, List.dropWhile_append_of_pos hbefore, dropWhile_isBlank hne hbody]
  have hback : ∀ c ∈ behind.reverse, isBlank c = true := fun c hc => hbehind c (List.mem_reverse.1 hc)
  have hkeep : (body.reverse ++ []).dropWhile isBlank = body.reverse ++ [] :=
    dropWhile_isBlank (List.reverse_ne_nil_iff.2 hne) fun c hc => hbody c (List.mem_reverse.1 hc)
  rw [List.append_nil] at hkeep
  rw [trim, hstart, trimEnd, List.reverse_append, List.dropWhile_append_of_pos hback, hkeep, List.reverse_reverse]

end Text

/-! ## Digits -/

namespace Decimal

def digit (c : Char) : ℕ := c.toNat - '0'.toNat

/-- The number that digits denote by their places, of which the last is that of the ones. -/
def denoted (cs : List Char) : ℕ := Nat.ofDigits 10 (cs.reverse.map digit)

theorem digit_lt {c : Char} (h : c.isDigit = true) : digit c < 10 := by
  obtain ⟨-, hhi⟩ := Char.isDigit_iff_toNat.1 h
  have hhi : c.toNat ≤ 57 := hhi
  show c.toNat - 48 < 10
  omega

theorem digit_inj {c d : Char} (hc : c.isDigit = true) (hd : d.isDigit = true) (h : digit c = digit d) : c = d := by
  obtain ⟨hlo, -⟩ := Char.isDigit_iff_toNat.1 hc
  obtain ⟨hlo', -⟩ := Char.isDigit_iff_toNat.1 hd
  have hlo : 48 ≤ c.toNat := hlo
  have hlo' : 48 ≤ d.toNat := hlo'
  have h : c.toNat - 48 = d.toNat - 48 := h
  exact Char.toNat_inj.1 (by omega)

theorem denoted_append (a b : List Char) : denoted (a ++ b) = denoted a * 10 ^ b.length + denoted b := by
  rw [denoted, List.reverse_append, List.map_append, Nat.ofDigits_append, List.length_map, List.length_reverse,
    Nat.mul_comm, Nat.add_comm]
  rfl

/-- Digits read from the left denote what their places say. -/
theorem value_eq_denoted (cs : List Char) : value cs = denoted cs := by
  induction cs using List.reverseRecOn with
  | nil => rfl
  | append_singleton cs c ih =>
    rw [value_append, ih, denoted_append]
    simp [denoted, digit]

theorem denoted_zeros (k : ℕ) : denoted (List.replicate k '0') = 0 := by
  induction k with
  | zero => rfl
  | succ k ih => rw [List.replicate_succ', denoted_append, ih]; rfl

theorem lt_of_mem_digits {cs : List Char} (h : ∀ c ∈ cs, c.isDigit = true) : ∀ d ∈ cs.reverse.map digit, d < 10 := by
  intro d hd
  obtain ⟨c, hc, rfl⟩ := List.mem_map.1 hd
  exact digit_lt (h c (List.mem_reverse.1 hc))

theorem denoted_lt {cs : List Char} (h : ∀ c ∈ cs, c.isDigit = true) : denoted cs < 10 ^ cs.length := by
  have hlt := Nat.ofDigits_lt_base_pow_length (by decide : 1 < 10) (lt_of_mem_digits h)
  rwa [List.length_map, List.length_reverse] at hlt

/-- So many digits denote each number once. -/
theorem denoted_inj {a b : List Char} (ha : ∀ c ∈ a, c.isDigit = true) (hb : ∀ c ∈ b, c.isDigit = true)
    (hlength : a.length = b.length) (h : denoted a = denoted b) : a = b := by
  have hmap : a.reverse.map digit = b.reverse.map digit :=
    Nat.ofDigits_inj_of_len_eq (by decide : 1 < 10) (by simpa using hlength) (lt_of_mem_digits ha) (lt_of_mem_digits hb) h
  rw [List.map_reverse, List.map_reverse, List.reverse_inj] at hmap
  refine List.ext_getElem hlength fun i hi hi' => ?_
  have hdigit : (a.map digit)[i]? = (b.map digit)[i]? := by rw [hmap]
  rw [List.getElem?_map, List.getElem?_map, List.getElem?_eq_getElem hi, List.getElem?_eq_getElem hi'] at hdigit
  exact digit_inj (ha _ (List.getElem_mem hi)) (hb _ (List.getElem_mem hi')) (Option.some.inj hdigit)

theorem value_zeros_append (k : Nat) (ds : List Char) : value (List.replicate k '0' ++ ds) = value ds := by
  rw [value_eq_denoted, value_eq_denoted, denoted_append, denoted_zeros, Nat.zero_mul, Nat.zero_add]

theorem value_append_zeros (ds : List Char) (k : Nat) : value (ds ++ List.replicate k '0') = value ds * 10 ^ k := by
  rw [value_eq_denoted, value_eq_denoted, denoted_append, denoted_zeros, List.length_replicate, Nat.add_zero]

end Decimal

/-! ## Numerals -/

/-- Digits with at most one point and at least one digit, and the number that they denote. -/
inductive Numeral : List Char → ℚ → Prop where
  | whole {i : List Char} (digits : ∀ c ∈ i, c.isDigit = true) (some : i ≠ []) : Numeral i (Decimal.denoted i)
  | point {i f : List Char} (digits : ∀ c ∈ i ++ f, c.isDigit = true) (some : i ++ f ≠ []) :
    Numeral (i ++ '.' :: f) (Decimal.denoted (i ++ f) / 10 ^ f.length)

/-- A text denotes a number by a numeral with nothing but blanks around it. -/
def Denotes (s : String) (q : ℚ) : Prop := ∃ body, Text.Framed body s.toList ∧ Numeral body q

namespace Numeral
variable {cs : List Char} {q : ℚ}

theorem ne_nil (h : Numeral cs q) : cs ≠ [] := by
  cases h with
  | whole _ hsome => exact hsome
  | point _ _ => simp

theorem not_blank (h : Numeral cs q) : ∀ c ∈ cs, Text.isBlank c = false := by
  intro c hc
  cases h with
  | whole hdigits _ => exact isBlank_of_isDigit (hdigits c hc)
  | @point i f hdigits _ =>
    rcases List.mem_append.1 hc with hi | hf
    · exact isBlank_of_isDigit (hdigits c (List.mem_append_left _ hi))
    · rcases List.mem_cons.1 hf with rfl | hf
      · rfl
      · exact isBlank_of_isDigit (hdigits c (List.mem_append_right _ hf))

end Numeral

namespace DecimalAmount

/-! ## Shortest digits -/

theorem eq_of_isZeroDigit {c : Char} (h : isZeroDigit c = true) : c = '0' := by
  simpa [isZeroDigit] using h

theorem stripFront_spec (cs : List Char) :
    (∃ k, cs = List.replicate k '0' ++ stripFront cs) ∧ (stripFront cs).head? ≠ some '0' := by
  constructor
  · refine ⟨(cs.takeWhile isZeroDigit).length, ?_⟩
    have hzeros : cs.takeWhile isZeroDigit = List.replicate (cs.takeWhile isZeroDigit).length '0' :=
      List.eq_replicate_iff.2 ⟨rfl, fun c hc => eq_of_isZeroDigit (List.all_eq_true.1 List.all_takeWhile c hc)⟩
    rw [← hzeros, stripFront, List.takeWhile_append_dropWhile]
  · intro hhead
    have hfirst := List.head?_dropWhile_not isZeroDigit cs
    rw [stripFront] at hhead
    rw [hhead] at hfirst
    cases hfirst

theorem stripBack_eq (cs : List Char) : stripBack cs = (stripFront cs.reverse).reverse := rfl

theorem stripBack_spec (cs : List Char) :
    (∃ k, cs = stripBack cs ++ List.replicate k '0') ∧ (stripBack cs).getLast? ≠ some '0' := by
  obtain ⟨⟨k, hk⟩, hhead⟩ := stripFront_spec cs.reverse
  constructor
  · refine ⟨k, ?_⟩
    have hreverse := congrArg List.reverse hk
    rwa [List.reverse_reverse, List.reverse_append, List.reverse_replicate] at hreverse
  · rwa [stripBack_eq, List.getLast?_reverse]

/-- The number of an amount. -/
def number (a : DecimalAmount) : ℚ := Decimal.denoted (a.integer ++ a.fraction) / 10 ^ a.fraction.length

/-- The amount is its shortest digits. -/
structure Shortest (a : DecimalAmount) : Prop where
  digits : ∀ c ∈ a.integer ++ a.fraction, c.isDigit = true
  front : a.integer.head? ≠ some '0'
  back : a.fraction.getLast? ≠ some '0'

/-- Zeros in front and at the end of the fraction do not count. -/
theorem number_strip (i f : List Char) :
    number ⟨stripFront i, stripBack f⟩ = Decimal.denoted (i ++ f) / 10 ^ f.length := by
  obtain ⟨⟨k, hi⟩, -⟩ := stripFront_spec i
  obtain ⟨⟨m, hf⟩, -⟩ := stripBack_spec f
  have hdenoted : Decimal.denoted (i ++ f) = Decimal.denoted (stripFront i ++ stripBack f) * 10 ^ m := by
    conv => lhs; rw [hi, hf]
    rw [List.append_assoc, ← List.append_assoc (stripFront i), Decimal.denoted_append, Decimal.denoted_zeros,
      Nat.zero_mul, Nat.zero_add, Decimal.denoted_append _ (List.replicate m '0'), Decimal.denoted_zeros,
      List.length_replicate, Nat.add_zero]
  have hlength : f.length = (stripBack f).length + m := by
    conv => lhs; rw [hf]
    rw [List.length_append, List.length_replicate]
  rw [number, hdenoted, hlength, Nat.cast_mul, pow_add, Nat.cast_pow, Nat.cast_ofNat]
  exact (mul_div_mul_right _ _ (by positivity)).symm

theorem shortest_strip {i f : List Char} (h : ∀ c ∈ i ++ f, c.isDigit = true) : Shortest ⟨stripFront i, stripBack f⟩ := by
  refine ⟨?_, (stripFront_spec i).2, (stripBack_spec f).2⟩
  intro c hc
  apply h
  rcases List.mem_append.1 hc with hi | hf
  · exact List.mem_append_left _ ((List.dropWhile_sublist _).subset hi)
  · obtain ⟨⟨k, hk⟩, -⟩ := stripBack_spec f
    rw [hk]
    exact List.mem_append_right _ (List.mem_append_left _ hf)

/-! ## Reading -/

theorem splitPoint_point {i f : List Char} (h : ∀ c ∈ i, c.isDigit = true) : splitPoint (i ++ '.' :: f) = (i, f) := by
  have hi : ∀ c ∈ i, (c != '.') = true := fun c hc => bne_iff_ne.2 (Decimal.ne_of_isDigit (h c hc) rfl)
  rw [splitPoint, List.span_eq_takeWhile_dropWhile, List.takeWhile_append_of_pos hi, List.dropWhile_append_of_pos hi]
  simp

theorem splitPoint_whole {i : List Char} (h : ∀ c ∈ i, c.isDigit = true) : splitPoint i = (i, []) := by
  have hi : ∀ c ∈ i, (c != '.') = true := fun c hc => bne_iff_ne.2 (Decimal.ne_of_isDigit (h c hc) rfl)
  rw [splitPoint, List.span_eq_takeWhile_dropWhile, List.takeWhile_eq_self_iff.2 hi, List.dropWhile_eq_nil_iff.2 hi]

/-- The text is what stands before its first point, or there is more behind. -/
theorem splitPoint_cases (cs : List Char) :
    cs = (splitPoint cs).1 ∧ (splitPoint cs).2 = [] ∨ cs = (splitPoint cs).1 ++ '.' :: (splitPoint cs).2 := by
  have hsplit : cs = cs.takeWhile (· != '.') ++ cs.dropWhile (· != '.') := List.takeWhile_append_dropWhile.symm
  rw [splitPoint, List.span_eq_takeWhile_dropWhile]
  cases hrest : cs.dropWhile (· != '.') with
  | nil =>
    left
    rw [hrest, List.append_nil] at hsplit
    exact ⟨hsplit, rfl⟩
  | cons c f =>
    right
    have hpoint := List.head?_dropWhile_not (· != '.') cs
    rw [hrest] at hpoint hsplit
    have hc : c = '.' := by simpa using hpoint
    rw [hc] at hsplit
    exact hsplit

theorem read?_eq (cs : List Char) :
    read? cs =
      if (splitPoint (Text.trim cs)).1 ++ (splitPoint (Text.trim cs)).2 ≠ [] ∧
          ∀ c ∈ (splitPoint (Text.trim cs)).1 ++ (splitPoint (Text.trim cs)).2, c.isDigit = true then
        some ⟨stripFront (splitPoint (Text.trim cs)).1, stripBack (splitPoint (Text.trim cs)).2⟩
      else none := by
  rw [read?]
  rcases splitPoint (Text.trim cs) with ⟨i, f⟩
  have hread : ¬((i = [] ∧ f = []) ∨ (!i.all Char.isDigit) = true ∨ (!f.all Char.isDigit) = true) ↔
      i ++ f ≠ [] ∧ ∀ c ∈ i ++ f, c.isDigit = true := by
    simp only [not_or, Bool.not_eq_true', Bool.not_eq_false, List.all_eq_true, ne_eq, List.append_eq_nil_iff,
      List.forall_mem_append]
  dsimp only
  split
  · rename_i hbad
    rw [if_neg fun h => hread.2 h hbad]
  · rename_i hgood
    rw [if_pos (hread.1 hgood)]

/-- A numeral is read as the shortest digits of what it denotes. -/
theorem read?_of_numeral {body cs : List Char} {q : ℚ} (hbody : Numeral body q) (hcs : Text.Framed body cs) :
    ∃ a, read? cs = some a ∧ a.Shortest ∧ a.number = q := by
  have htrim := Text.trim_of_framed hcs hbody.ne_nil hbody.not_blank
  rw [read?_eq, htrim]
  cases hbody with
  | whole hdigits hsome =>
    have hall : ∀ c ∈ body ++ [], c.isDigit = true := by simpa using hdigits
    rw [splitPoint_whole hdigits, if_pos ⟨by simpa using hsome, hall⟩]
    refine ⟨_, rfl, shortest_strip hall, ?_⟩
    rw [number_strip]
    simp
  | @point i f hdigits hsome =>
    rw [splitPoint_point fun c hc => hdigits c (List.mem_append_left _ hc), if_pos ⟨hsome, hdigits⟩]
    exact ⟨_, rfl, shortest_strip hdigits, number_strip i f⟩

/-- What is read is a numeral with blanks around it. -/
theorem numeral_of_read? {cs : List Char} {a : DecimalAmount} (h : read? cs = some a) :
    Numeral (Text.trim cs) a.number ∧ a.Shortest := by
  rw [read?_eq] at h
  split at h
  · rename_i hread
    obtain ⟨hsome, hdigits⟩ := hread
    cases h
    refine ⟨?_, shortest_strip hdigits⟩
    rw [number_strip]
    obtain ⟨hwhole, hnone⟩ | hpoint := splitPoint_cases (Text.trim cs)
    · rw [hnone, List.append_nil] at hsome hdigits ⊢
      rw [← hwhole] at hsome hdigits ⊢
      simpa using Numeral.whole hdigits hsome
    · have hnumeral := Numeral.point hdigits hsome
      rwa [← hpoint] at hnumeral
  · cases h

/-! ## Base units -/

/-- The base units of an amount are the floor of its number in units. -/
theorem value_unitDigits {a : DecimalAmount} (h : ∀ c ∈ a.integer ++ a.fraction, c.isDigit = true) (decimals : ℕ) :
    Decimal.value (a.unitDigits decimals) = ⌊a.number * 10 ^ decimals⌋₊ := by
  obtain ⟨i, f⟩ := a
  have hfloor : ⌊number ⟨i, f⟩ * 10 ^ decimals⌋₊ = Decimal.denoted (i ++ f) * 10 ^ decimals / 10 ^ f.length := by
    rw [← Nat.floor_div_eq_div (K := ℚ), number]
    push_cast
    rw [div_mul_eq_mul_div]
  rw [hfloor, Decimal.value_eq_denoted]
  by_cases hle : f.length ≤ decimals
  · -- The fraction is taken as a whole, with zeros behind it.
    have hpow : 10 ^ decimals = 10 ^ (decimals - f.length) * 10 ^ f.length := by
      rw [← pow_add, Nat.sub_add_cancel hle]
    rw [unitDigits, List.take_of_length_le hle, Decimal.denoted_append, Decimal.denoted_zeros, List.length_replicate,
      Nat.add_zero, hpow, ← Nat.mul_assoc, Nat.mul_div_cancel _ (by positivity)]
  · -- What is cut off of the fraction is less than one unit.
    have hlt : decimals < f.length := Nat.lt_of_not_le hle
    have hcut : Decimal.denoted (i ++ f) =
        Decimal.denoted (i ++ f.take decimals) * 10 ^ (f.length - decimals) + Decimal.denoted (f.drop decimals) := by
      rw [← List.length_drop, ← Decimal.denoted_append, List.append_assoc, List.take_append_drop]
    have hsmall : Decimal.denoted (f.drop decimals) < 10 ^ (f.length - decimals) := by
      rw [← List.length_drop]
      exact Decimal.denoted_lt fun c hc => h c (List.mem_append_right _ (List.drop_subset _ _ hc))
    have hpow : 10 ^ f.length = 10 ^ (f.length - decimals) * 10 ^ decimals := by
      rw [← pow_add, Nat.sub_add_cancel (Nat.le_of_lt hlt)]
    have hnone : decimals - f.length = 0 := Nat.sub_eq_zero_of_le (Nat.le_of_lt hlt)
    rw [unitDigits, hnone, List.replicate_zero, List.append_nil, hpow, Nat.mul_div_mul_right _ _ (by positivity), hcut,
      Nat.mul_comm, Nat.mul_add_div (by positivity), Nat.div_eq_of_lt hsmall, Nat.add_zero]

end DecimalAmount
end EvmClient
