import EvmClient.Amount

/-
The double-precision number nearest to a ratio, as its 64 bits, in exact arithmetic.

   The significand is the quotient that lies from `2 ^ 52` to below `2 ^ 53`, rounded to the nearest and
   in a tie to the even neighbour; below the least normal number the exponent stays at its least. -/
namespace EvmClient.Double

/-- The place of the leading bit of a significand, which is not written. -/
def hidden : Nat := 1 <<< 52

/-- The floor and the remainder test of `num / (den * 2 ^ e)`: the quotient, and twice the remainder
against the divisor. -/
def scaled (num den : Nat) (e : Int) : Nat × Ordering :=
  let n := if 0 ≤ e then num else num <<< e.natAbs
  let d := if 0 ≤ e then den <<< e.natAbs else den
  (n / d, compare (2 * (n % d)) d)

/-- The quotient rounded to the nearest, ties to even. -/
def rounded (num den : Nat) (e : Int) : Nat :=
  match scaled num den e with
  | (q, .lt) => q
  | (q, .gt) => q + 1
  | (q, .eq) => if q % 2 = 0 then q else q + 1

/-- The exponent of the significand's last place. -/
def exponent (num den : Nat) : Int :=
  let guess : Int := (Nat.log2 num : Int) - Nat.log2 den - 52
  let q := (scaled num den guess).1
  let e := if q < hidden then guess - 1 else if 2 * hidden ≤ q then guess + 1 else guess
  max e (-1074)

/-- The bits of a significand and the exponent of its last place. -/
def assemble (q : Nat) (e : Int) : Nat :=
  let (q, e) := if q = 2 * hidden then (hidden, e + 1) else (q, e)
  if q < hidden then q
  else
    let biased := (e + 1075).toNat
    if 2047 ≤ biased then 2047 * hidden else biased * hidden + (q - hidden)

/-- The bits of the double nearest to `num / den`. -/
def nearestBits (num den : Nat) : Nat :=
  if num = 0 then 0
  else
    let e := exponent num den
    assemble (rounded num den e) e

end EvmClient.Double

namespace EvmClient

/-- The bits of the double nearest to an amount: a rounded value for display. -/
def TokenAmount.doubleBits (a : TokenAmount) : Nat := Double.nearestBits a.raw.toNat (Nat.pow 10 a.decimals)

end EvmClient
