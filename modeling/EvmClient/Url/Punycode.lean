/-
Reading the ASCII form of international labels.

   The part in front of the last hyphen, which is ASCII, stands for itself. Behind it, each variable-length
   number in base 36 says how far to advance, over code points and places, to the next inserted character. -/
namespace EvmClient.Url.Punycode

def digit? (c : Char) : Option Nat :=
  let n := c.toNat
  if 97 ≤ n ∧ n ≤ 122 then some (n - 97)
  else if 65 ≤ n ∧ n ≤ 90 then some (n - 65)
  else if 48 ≤ n ∧ n ≤ 57 then some (n - 22)
  else none

/-- The least value of a digit after which another one follows. -/
def threshold (k bias : Nat) : Nat := if k ≤ bias then 1 else if bias + 26 ≤ k then 26 else k - bias

/-- Reads one number; `k` counts the places and `weight` is that of the next digit. Weights and sums have
32 bits. -/
def number? (bias : Nat) : Nat → Nat → Nat → List Char → Option (Nat × List Char)
  | _, _, _, [] => none
  | k, weight, acc, c :: rest =>
    match digit? c with
    | none => none
    | some d =>
      let t := threshold k bias
      let acc := acc + d * weight
      if UInt32.size ≤ acc then none
      else if d < t then some (acc, rest)
      else if UInt32.size ≤ weight * (36 - t) then none
      else number? bias (k + 36) (weight * (36 - t)) acc rest

/-- Divides by 35 until at most 455 is left; each division moves the bias by a place. -/
def reduce (delta k : Nat) : Nat × Nat :=
  if 455 < delta then reduce (delta / 35) (k + 36) else (delta, k)
termination_by delta
decreasing_by exact Nat.div_lt_self (by omega) (by decide)

def adapt (delta count : Nat) (first : Bool) : Nat :=
  let d := if first then delta / 700 else delta / 2
  let (d, k) := reduce (d + d / count) 0
  k + 36 * d / (d + 38)

/-- Inserts the announced characters one after the other, at most `fuel` of them. -/
def insertAll : Nat → Nat → Nat → Nat → Bool → List Char → List Char → Option (List Char)
  | _, _, _, _, _, out, [] => some out
  | 0, _, _, _, _, _, _ => none
  | fuel + 1, code, place, bias, first, out, cs =>
    match number? bias 36 1 place cs with
    | none => none
    | some (total, rest) =>
      let delta := total - place
      let size := out.length + 1
      let code := code + total / size
      let place := total % size
      if h : code.isValidChar then
        let out := out.take place ++ Char.ofNatAux code h :: out.drop place
        insertAll fuel code (place + 1) (adapt delta size first) false out rest
      else none

/-- The part in front of the last hyphen and the part behind it. A hyphen with nothing in front of it is
left in place. -/
def splitLast (cs : List Char) : List Char × List Char :=
  let behind := (cs.reverse.takeWhile (· != '-')).reverse
  if cs.length ≤ behind.length + 1 then ([], cs) else (cs.take (cs.length - behind.length - 1), behind)

/-- The label that an ASCII form denotes. -/
def decode? (cs : List Char) : Option (List Char) :=
  let (plain, coded) := splitLast cs
  if plain.all (·.toNat < 128) then insertAll coded.length 128 0 72 true plain coded else none

end EvmClient.Url.Punycode
