/-
Decimal text of natural numbers.

   `digits` writes a number, `value?` reads a nonempty text of ASCII digits, and `unsigned?` reads one
   that may carry a plus sign and has to stay below a bound.

   Main statement: what is written reads back (`value?_digits`). -/
namespace EvmClient.Decimal

/-- The decimal digits of a number, without leading zeros. -/
def digits (n : Nat) : List Char := Nat.toDigits 10 n

/-- The number that a text of digits denotes. -/
def value (cs : List Char) : Nat := cs.foldl (fun acc c => acc * 10 + (c.toNat - 48)) 0

/-- Reads a nonempty text of ASCII digits. -/
def value? (cs : List Char) : Option Nat :=
  if cs ≠ [] ∧ cs.all Char.isDigit then some (value cs) else none

/-- Reads a text of digits, after an optional plus sign, whose number is below the bound. -/
def unsigned? (bound : Nat) (cs : List Char) : Option Nat :=
  let body := match cs with
    | '+' :: rest => rest
    | cs => cs
  match value? body with
  | some n => if n < bound then some n else none
  | none => none

theorem value_append (a : List Char) (c : Char) : value (a ++ [c]) = value a * 10 + (c.toNat - 48) := by
  simp [value, List.foldl_append]

theorem isDigit_digitChar {d : Nat} (h : d < 10) : d.digitChar.isDigit = true ∧ d.digitChar.toNat - 48 = d := by
  have : ∀ d, d < 10 → d.digitChar.isDigit = true ∧ d.digitChar.toNat - 48 = d := by decide
  exact this d h

theorem digits_eq (n : Nat) : (n < 10 ∧ digits n = [n.digitChar]) ∨
    (10 ≤ n ∧ digits n = digits (n / 10) ++ [(n % 10).digitChar]) := by
  by_cases h : n < 10
  · exact .inl ⟨h, Nat.toDigits_of_lt_base h⟩
  · refine .inr ⟨by omega, ?_⟩
    rw [digits, Nat.toDigits_of_base_le (by decide) (by omega)]
    rfl

theorem digits_spec (n : Nat) : digits n ≠ [] ∧ (digits n).all Char.isDigit ∧ value (digits n) = n := by
  induction n using Nat.strongRecOn with
  | _ n ih =>
    rcases digits_eq n with ⟨h, e⟩ | ⟨h, e⟩
    · rw [e]
      have hd := isDigit_digitChar h
      simp [value, hd]
    · have hd := isDigit_digitChar (Nat.mod_lt n (by decide : 10 > 0))
      obtain ⟨h1, h2, h3⟩ := ih (n / 10) (by omega)
      rw [e, value_append, h3, hd.2]
      refine ⟨by simp, ?_, by omega⟩
      simp only [List.all_append, h2, List.all_cons, hd.1, List.all_nil, Bool.and_self]

theorem isDigit_digits (n : Nat) : ∀ c ∈ digits n, c.isDigit = true := List.all_eq_true.1 (digits_spec n).2.1

/-- A digit is none of the marks around numbers. -/
theorem ne_of_isDigit {c d : Char} (hc : c.isDigit = true) (hd : d.isDigit = false) : c ≠ d := by
  rintro rfl
  rw [hc] at hd
  cases hd

/-- Only zero starts with a zero. -/
theorem head?_digits {n : Nat} (hn : 0 < n) : (digits n).head? ≠ some '0' := by
  induction n using Nat.strongRecOn with
  | _ n ih =>
    rcases digits_eq n with ⟨hlt, h⟩ | ⟨hle, h⟩
    · have hdigit : ∀ d, 0 < d → d < 10 → d.digitChar ≠ '0' := by
        intro d h0 h10 hd
        have hvalue := (isDigit_digitChar h10).2
        rw [hd] at hvalue
        exact absurd hvalue (Nat.ne_of_lt h0)
      rw [h]
      simpa using hdigit n hn hlt
    · obtain ⟨c, rest, hc⟩ := List.exists_cons_of_ne_nil (digits_spec (n / 10)).1
      have hfront := ih (n / 10) (by omega) (by omega)
      rw [hc] at hfront
      rw [h, hc]
      exact hfront

/-- What is written reads back. -/
theorem value?_digits (n : Nat) : value? (digits n) = some n := by
  obtain ⟨h1, h2, h3⟩ := digits_spec n
  simp [value?, h1, h2, h3]

end EvmClient.Decimal
