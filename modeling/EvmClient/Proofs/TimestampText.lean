import EvmClient.Proofs.Numerals
import EvmClient.Timestamp
import Mathlib

/-
What the text of a point in time reads back as.

   A written time has every number at its full width and a mark behind it, so the lenient reader finds each number
   whole. Years beyond four digits, years before the first, leap seconds and fractions of any length are covered. A leap
   second behind the last second of a minute is read as such; behind another second it is written as the next one, and
   the text does not tell it from that. So a time reads back as itself unless it has such a leap second.

   1. `settled`, `settled_eq_self_iff` — the time that the text says, and when it is the one that was written.
   2. `digits?_append` — a number with a mark behind it.
   3. `year?_yearChars`, `fraction?_fractionChars`, `unwritten?_written` — the parts whose width varies, and the second.
   4. `ofText?_text` — the whole. -/
namespace EvmClient

namespace Timestamp

/-! ## Leap seconds -/

/-- The time that the text of a time says: the same, but for a leap second behind a second other than the last of its
minute, in whose place stands the next second. -/
def settled (t : Timestamp) : Timestamp :=
  if h : 1000000000 ≤ t.nano ∧ t.second < 59 then
    ⟨t.date, t.hour, t.minute, t.second + 1, t.nano - 1000000000, t.valid.1, t.valid.2.1, by omega,
      by have hnano := t.valid.2.2.2; omega⟩
  else t

theorem settled_eq_self_iff {t : Timestamp} : t.settled = t ↔ t.nano < 1000000000 ∨ t.second = 59 := by
  have hsecond := t.valid.2.2.1
  unfold settled
  split
  · rename_i hleap
    refine iff_of_false (fun h => ?_) (by omega)
    have hmoved : t.second + 1 = t.second := congrArg Timestamp.second h
    omega
  · exact iff_of_true rfl (by omega)

/-- Both have the date, the hour and the minute, and are written with the same second and fraction. -/
theorem settled_parts (t : Timestamp) :
    t.settled.date = t.date ∧ t.settled.hour = t.hour ∧ t.settled.minute = t.minute ∧ t.settled.written = t.written := by
  have hnano := t.valid.2.2.2
  unfold settled
  split
  · rename_i hleap
    refine ⟨rfl, rfl, rfl, ?_⟩
    rw [written, written, if_pos (by dsimp only; omega), if_neg (Nat.not_lt.2 hleap.1)]
  · exact ⟨rfl, rfl, rfl, rfl⟩

theorem settled_text (t : Timestamp) : t.settled.text = t.text := by
  obtain ⟨hdate, hhour, hminute, hwritten⟩ := t.settled_parts
  rw [text, text, chars, chars, hdate, hhour, hminute, hwritten]

/-- What is written says the settled second. -/
theorem unwritten?_written (t : Timestamp) :
    unwritten? t.written.1 t.written.2 = some (t.settled.second, t.settled.nano) := by
  obtain ⟨-, -, hsecond, hnano⟩ := t.valid
  by_cases hleap : t.nano < 1000000000
  · have hself : t.settled = t := settled_eq_self_iff.2 (.inl hleap)
    rw [hself, written, if_pos hleap]
    exact if_pos hsecond
  · have hwritten : t.written = (t.second + 1, t.nano - 1000000000) := if_neg hleap
    have hback : t.nano - 1000000000 + 1000000000 = t.nano := Nat.sub_add_cancel (Nat.le_of_not_lt hleap)
    rw [hwritten, unwritten?]
    dsimp only
    by_cases hlast : t.second = 59
    · have hself : t.settled = t := settled_eq_self_iff.2 (.inr hlast)
      rw [hself, hlast, if_neg (by decide), if_pos rfl, hback]
    · have hsettled : t.settled = _ := dif_pos ⟨Nat.le_of_not_lt hleap, by omega⟩
      rw [hsettled, if_pos (by omega)]

/-! ## Numbers -/

theorem value_padded (width n : Nat) : Decimal.value (padded width n) = n := by
  rw [padded, Decimal.value_zeros_append]
  exact (Decimal.digits_spec n).2.2

theorem isDigit_padded (width n : Nat) : ∀ c ∈ padded width n, c.isDigit = true := by
  intro c hc
  rcases List.mem_append.1 hc with hzero | hdigit
  · rw [List.eq_of_mem_replicate hzero]
    rfl
  · exact Decimal.isDigit_digits _ c hdigit

theorem padded_ne_nil (width n : Nat) : padded width n ≠ [] := by
  intro h
  exact (Decimal.digits_spec n).1 (List.append_eq_nil_iff.1 h).2

theorem length_padded {width n : Nat} (hwidth : 0 < width) (hn : n < 10 ^ width) : (padded width n).length = width := by
  have hlength : (Decimal.digits n).length ≤ width := (Nat.length_toDigits_le_iff (by decide) hwidth).2 hn
  simp only [padded, List.length_append, List.length_replicate]
  omega

theorem trimStart_padded (width n : Nat) (rest : List Char) :
    Text.trimStart (padded width n ++ rest) = padded width n ++ rest := by
  obtain ⟨c, cs, hc⟩ := List.exists_cons_of_ne_nil (padded_ne_nil width n)
  have hdigit := isDigit_padded width n c (hc ▸ List.mem_cons_self)
  rw [hc, List.cons_append]
  exact List.dropWhile_cons_of_neg (by simp [isBlank_of_isDigit hdigit])

/-- A number ends at a mark. -/
theorem digits?_append {max : Nat} {ds rest : List Char} (hds : ∀ c ∈ ds, c.isDigit = true) (hne : ds ≠ [])
    (hlength : ds.length ≤ max) (hrest : ∀ c ∈ rest.head?, c.isDigit = false) :
    digits? max (ds ++ rest) = some (Decimal.value ds, rest) := by
  have hmark : (rest.take (max - ds.length)).takeWhile Char.isDigit = [] := by
    cases rest with
    | nil => simp
    | cons c rest =>
      cases max - ds.length with
      | zero => rfl
      | succ k => simp [hrest c rfl]
  have htake : ((ds ++ rest).take max).takeWhile Char.isDigit = ds := by
    rw [List.take_append, List.take_of_length_le hlength, List.takeWhile_append_of_pos hds, hmark, List.append_nil]
  unfold digits?
  simp only [htake]
  rw [if_neg hne, List.drop_left]

theorem number?_padded {width n : Nat} (hwidth : 0 < width) (hn : n < 10 ^ width) {rest : List Char}
    (hrest : ∀ c ∈ rest.head?, c.isDigit = false) : number? width (padded width n ++ rest) = some (n, rest) := by
  have hlength := length_padded hwidth hn
  rw [number?, trimStart_padded, digits?_append (isDigit_padded width n) (padded_ne_nil width n) (by omega) hrest,
    value_padded]

theorem mark?_cons {c : Char} (hc : Text.isBlank c = false) (rest : List Char) : mark? c (c :: rest) = some rest := by
  have htrim : Text.trimStart (c :: rest) = c :: rest := List.dropWhile_cons_of_neg (by simp [hc])
  rw [mark?, htrim]
  exact if_pos rfl

/-! ## Parts of varying width -/

/-- A year with its sign, if it has one, ends at a mark. -/
theorem year?_yearChars (year : Int) {rest : List Char} (hrest : ∀ c ∈ rest.head?, c.isDigit = false) :
    year? (yearChars year ++ rest) = some (year, rest) := by
  have hsigned : ∀ n, digits? (padded 4 n ++ rest).length (padded 4 n ++ rest) = some (n, rest) := by
    intro n
    rw [digits?_append (isDigit_padded 4 n) (padded_ne_nil 4 n) (by simp) hrest, value_padded]
  unfold yearChars
  split
  · rename_i hyear
    have hpadded := number?_padded (by decide) (by omega : year.toNat < 10 ^ 4) hrest
    have htrim := trimStart_padded 4 year.toNat rest
    rw [number?, htrim] at hpadded
    obtain ⟨c, cs, hc⟩ := List.exists_cons_of_ne_nil (padded_ne_nil 4 year.toNat)
    have hdigit := isDigit_padded 4 year.toNat c (hc ▸ List.mem_cons_self)
    have hminus : c ≠ '-' := Decimal.ne_of_isDigit hdigit (by decide)
    have hplus : c ≠ '+' := Decimal.ne_of_isDigit hdigit (by decide)
    have hint : (year.toNat : Int) = year := by omega
    rw [year?, htrim]
    rw [hc] at hpadded ⊢
    simp only [List.cons_append] at hpadded ⊢
    simp [hminus, hplus, hpadded, hint]
  · rename_i hyear
    have hminus : Text.isBlank '-' = false := by decide
    have hplus : Text.isBlank '+' = false := by decide
    by_cases hneg : year < 0
    · have hint : -(year.natAbs : Int) = year := by omega
      rw [if_pos hneg, List.cons_append, year?, Text.trimStart, List.dropWhile_cons_of_neg (by simp [hminus])]
      simp only [hsigned, Option.map_some, hint]
    · have hint : (year.natAbs : Int) = year := by omega
      rw [if_neg hneg, List.cons_append, year?, Text.trimStart, List.dropWhile_cons_of_neg (by simp [hplus])]
      simp only [hsigned, Option.map_some, hint]

/-- A fraction of any written length denotes its nanoseconds. -/
theorem fraction?_fractionChars {nano : Nat} (hnano : nano < 1000000000) (rest : List Char)
    (hrest : ∀ c ∈ rest.head?, c.isDigit = false ∧ c ≠ '.') :
    fraction? (fractionChars nano ++ rest) = some (nano, rest) := by
  have hstop : rest.takeWhile Char.isDigit = [] := by
    cases rest with
    | nil => rfl
    | cons c rest => simp [(hrest c rfl).1]
  -- The zeros that fill up the nine digits give back the factor that writing took off.
  have hfraction : ∀ width n, 0 < width → width ≤ 9 → n < 10 ^ width → n * 10 ^ (9 - width) = nano →
      fraction? ('.' :: (padded width n ++ rest)) = some (nano, rest) := by
    intro width n hwidth hle hn hfactor
    have hlength := length_padded hwidth hn
    have htake : (padded width n ++ rest).takeWhile Char.isDigit = padded width n := by
      rw [List.takeWhile_append_of_pos (isDigit_padded width n), hstop, List.append_nil]
    have hfilled : (padded width n ++ List.replicate 9 '0').take 9 = padded width n ++ List.replicate (9 - width) '0' := by
      rw [List.take_append, hlength, List.take_of_length_le (by omega), List.take_replicate, Nat.min_eq_left (by omega)]
    unfold fraction?
    simp only [htake, hfilled, Decimal.value_append_zeros, value_padded, hfactor]
    rw [if_neg (padded_ne_nil width n), List.drop_left]
  unfold fractionChars
  split
  · rename_i hzero
    rw [List.nil_append, hzero]
    unfold fraction?
    split
    · exact absurd rfl (hrest '.' rfl).2
    · rfl
  split
  · exact hfraction 3 _ (by decide) (by decide) (by omega) (by omega)
  split
  · exact hfraction 6 _ (by decide) (by decide) (by omega) (by omega)
  · exact hfraction 9 _ (by decide) (by decide) (by omega) (by omega)

/-! ## The whole text -/

theorem shift?_zero (t : Timestamp) : t.shift? 0 = some t := by
  have hvalid := t.valid
  have hhour : (t.hour * 60 + t.minute) / 60 = t.hour := by omega
  have hminute : (t.hour * 60 + t.minute) % 60 = t.minute := by omega
  unfold shift?
  simp only [Int.add_zero, Int.toNat_natCast, hhour, hminute]
  rw [if_neg (by omega), if_neg (by omega), of?_self]

/-- The written second has two digits, and the written fraction nine. -/
theorem written_lt (t : Timestamp) : t.written.1 < 10 ^ 2 ∧ t.written.2 < 1000000000 := by
  obtain ⟨-, -, hsecond, hnano⟩ := t.valid
  unfold written
  split
  · exact ⟨by omega, by assumption⟩
  · exact ⟨by dsimp only; omega, by dsimp only; omega⟩

/-- A year of any sign and size, a fraction of any length and a leap second behind the last second read back. -/
theorem ofText?_text (t : Timestamp) : ofText? t.text = some t.settled := by
  obtain ⟨-, ⟨hmonth1, hmonth⟩, hday1, hday⟩ := t.date.valid
  obtain ⟨hhour, hminute, -, -⟩ := t.valid
  obtain ⟨hsecond, hnano⟩ := t.written_lt
  have hdays : Date.daysIn t.date.year t.date.month < 10 ^ 2 := by
    unfold Date.daysIn
    repeat' split
    all_goals omega
  have hend : ∀ c ∈ ['Z'].head?, c.isDigit = false ∧ c ≠ '.' := by simp
  have hhead : ∀ c ∈ (fractionChars t.written.2 ++ ['Z']).head?, c.isDigit = false := by
    unfold fractionChars
    repeat' split
    all_goals simp
  have hmark : ∀ (c : Char) rest, c.isDigit = false → ∀ d ∈ (c :: rest).head?, d.isDigit = false := by
    rintro c rest hc d ⟨⟩
    exact hc
  -- The numbers, the last one first.
  have hnano := fraction?_fractionChars hnano ['Z'] hend
  have hsecond := number?_padded (by decide) hsecond hhead
  have hminute := fun rest => number?_padded (by decide) (by omega : t.minute < 10 ^ 2) (hmark ':' rest (by decide))
  have hhour := fun rest => number?_padded (by decide) (by omega : t.hour < 10 ^ 2) (hmark ':' rest (by decide))
  have hday := fun rest => number?_padded (by decide) (by omega : t.date.day < 10 ^ 2) (hmark 'T' rest (by decide))
  have hmonth := fun rest => number?_padded (by decide) (by omega : t.date.month < 10 ^ 2) (hmark '-' rest (by decide))
  have hyear := fun rest => year?_yearChars t.date.year (hmark '-' rest (by decide))
  have hdash := fun rest => mark?_cons (by decide : Text.isBlank '-' = false) rest
  have hcolon := fun rest => mark?_cons (by decide : Text.isBlank ':' = false) rest
  rw [text, ofText?, String.toList_ofList, chars, ofChars?]
  simp only [List.append_assoc, List.cons_append, hyear, hdash, hmonth, hday, separator?, hhour, hcolon, hminute, hsecond,
    hnano, Option.bind_eq_bind, Option.bind_some]
  have hzone : zone? (Text.trimStart ['Z']) = some (0, []) := rfl
  have htime : of? t.date t.hour t.minute t.settled.second t.settled.nano = some t.settled := by
    obtain ⟨hdate, hhour, hminute, -⟩ := t.settled_parts
    rw [← hdate, ← hhour, ← hminute, of?_self]
  simp only [hzone, Option.bind_some, Date.of?_self, unwritten?_written, htime, Int.neg_zero, shift?_zero]
  rfl

end Timestamp
end EvmClient
