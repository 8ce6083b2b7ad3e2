import EvmClient.Bytes

/-
The curve `y² = x³ + 7` over the prime field of size `p`, and its group of prime order `n`.

   Points are computed with in Jacobian coordinates: `(x, y, z)` stands for `(x / z², y / z³)`, and
   `z = 0` is the neutral point. Multiples are formed by doubling over the bits of the factor. -/
namespace EvmClient.Secp256k1

/-- The size of the field. -/
def p : Nat := 0xfffffffffffffffffffffffffffffffffffffffffffffffffffffffefffffc2f

/-- The order of the group. -/
def n : Nat := 0xfffffffffffffffffffffffffffffffebaaedce6af48a03bbfd25e8cd0364141

/-- `b ^ e mod m` over the `bits` low bits of the exponent. -/
def powMod (m b : Nat) : Nat → Nat → Nat
  | 0, _ => 1 % m
  | bits + 1, e =>
    let h := powMod m b bits (e / 2)
    let sq := h * h % m
    if e % 2 = 1 then sq * b % m else sq

/-- The inverse modulo a prime below `2 ^ 256`. -/
def inverse (m a : Nat) : Nat := powMod m (a % m) 256 (m - 2)

def sub (a b : Nat) : Nat := (a + (p - b % p)) % p

structure Jacobian where
  x : Nat
  y : Nat
  z : Nat
deriving DecidableEq, Repr

namespace Jacobian

def neutral : Jacobian := ⟨1, 1, 0⟩

def double (a : Jacobian) : Jacobian :=
  if a.z = 0 ∨ a.y = 0 then neutral
  else
    let yy := a.y * a.y % p
    let s := 4 * a.x * yy % p
    let m := 3 * a.x * a.x % p
    let x := sub (m * m) (2 * s)
    ⟨x, sub (m * sub s x) (8 * yy * yy), 2 * a.y * a.z % p⟩

def add (a b : Jacobian) : Jacobian :=
  if a.z = 0 then b
  else if b.z = 0 then a
  else
    let za := a.z * a.z % p
    let zb := b.z * b.z % p
    let ua := a.x * zb % p
    let ub := b.x * za % p
    let sa := a.y * zb * b.z % p
    let sb := b.y * za * a.z % p
    if ua = ub then
      if sa = sb then double a else neutral
    else
      let h := sub ub ua
      let r := sub sb sa
      let hh := h * h % p
      let hhh := hh * h % p
      let v := ua * hh % p
      let x := sub (sub (r * r) hhh) (2 * v)
      ⟨x, sub (r * sub v x) (sa * hhh), h * a.z * b.z % p⟩

/-- The multiple by the `bits` low bits of `k`. -/
def mul (a : Jacobian) : Nat → Nat → Jacobian
  | 0, _ => neutral
  | bits + 1, k =>
    let h := double (mul a bits (k / 2))
    if k % 2 = 1 then add h a else h

/-- The affine coordinates, of a point other than the neutral one. -/
def affine? (a : Jacobian) : Option (Nat × Nat) :=
  if a.z = 0 then none
  else
    let i := inverse p a.z
    let ii := i * i % p
    some (a.x * ii % p, a.y * ii * i % p)

end Jacobian

/-- The generator of the group. -/
def generator : Jacobian :=
  ⟨0x79be667ef9dcbbac55a06295ce870b07029bfcdb2dce28d959f2815b16f81798,
   0x483ada7726a3c4655da4fbfc0e1108a8fd17b448a68554199c47d08ffb10d4b8, 1⟩

/-- The point of abscissa `x` whose ordinate has the given parity, if there is one. -/
def lift? (x : Nat) (odd : Bool) : Option Jacobian :=
  let c := (x * x * x + 7) % p
  let y := powMod p c 256 ((p + 1) / 4)
  if p ≤ x ∨ y * y % p ≠ c then none
  else if (y % 2 == 1) == odd then some ⟨x, y, 1⟩
  else some ⟨x, (p - y) % p, 1⟩

end EvmClient.Secp256k1
