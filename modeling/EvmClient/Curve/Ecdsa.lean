import EvmClient.Curve.Secp256k1
import EvmClient.Digest.Sha256

/-
Signatures on secp256k1 from which the signer's public key can be recovered.

   The nonce is drawn deterministically from the key and the digest (keyed SHA-256). A signature is
   always given in its low form, `s ≤ n / 2`; recovery refuses the high form, so each signed digest
   has one accepted signature per nonce. -/
namespace EvmClient.Ecdsa
open Secp256k1

/-- A private key: a factor of the generator other than zero. -/
structure PrivateKey where
  scalar : Nat
  pos : 0 < scalar
  lt : scalar < n
deriving DecidableEq

/-- A public key: the affine coordinates of a point. -/
structure PublicKey where
  x : Nat
  y : Nat
deriving DecidableEq, Repr

/-- A signature with the parity of its point's ordinate. -/
structure Signature where
  r : Word256
  s : Word256
  odd : Bool
deriving DecidableEq, Repr

/-- Refuses zero, the group order, and all above. -/
def PrivateKey.ofNat? (k : Nat) : Option PrivateKey :=
  if h : 0 < k ∧ k < n then some ⟨k, h.1, h.2⟩ else none

def PrivateKey.bytes (k : PrivateKey) : Bytes := Bytes.ofNat 32 k.scalar

/-- The public key's two coordinates, 32 bytes each. -/
def PublicKey.bytes (k : PublicKey) : Bytes := Bytes.ofNat 32 k.x ++ Bytes.ofNat 32 k.y

def PrivateKey.publicKey? (k : PrivateKey) : Option PublicKey :=
  (generator.mul 256 k.scalar).affine?.map fun (x, y) => ⟨x, y⟩

/-- The greatest scalar of the low form. -/
def halfOrder : Nat := n / 2

/-! ## The nonce -/

/-- The generator of nonce candidates. -/
structure Drbg where
  k : Bytes
  v : Bytes

namespace Drbg

def seed (entropy : Bytes) : Drbg :=
  let v := List.replicate 32 1
  let k := Sha256.hmac (List.replicate 32 0) (v ++ 0 :: entropy)
  let v := Sha256.hmac k v
  let k := Sha256.hmac k (v ++ 1 :: entropy)
  ⟨k, Sha256.hmac k v⟩

/-- The next candidate, and the generator after it. -/
def next (d : Drbg) : Nat × Drbg :=
  let v := Sha256.hmac d.k d.v
  let k := Sha256.hmac d.k (v ++ [0])
  (Bytes.toNat v, ⟨k, Sha256.hmac k v⟩)

/-- The first of `tries` candidates that is a scalar other than zero. -/
def draw? : Nat → Drbg → Option Nat
  | 0, _ => none
  | tries + 1, d =>
    let (c, d) := d.next
    if 0 < c ∧ c < n then some c else draw? tries d

end Drbg

/-- The nonce of a key and a reduced digest. Each candidate is refused with a probability below
`2 ^ -127`, so the bound on the tries is never met. -/
def nonce? (key : PrivateKey) (z : Nat) : Option Nat :=
  (Drbg.seed (key.bytes ++ Bytes.ofNat 32 z)).draw? 64

/-! ## Signing and recovery -/

/-- Signs a digest; the signature is in low form. -/
def sign? (key : PrivateKey) (digest : Hash) : Option Signature := do
  let z := digest.toNat % n
  let k ← nonce? key z
  let (x, y) ← (generator.mul 256 k).affine?
  let r := x % n
  let s := inverse n k * ((z + r * key.scalar) % n) % n
  if r = 0 ∨ s = 0 then none
  else
    let high := decide (halfOrder < s)
    some ⟨BitVec.ofNat 256 r, BitVec.ofNat 256 (if high then n - s else s), (y % 2 == 1) != high⟩

/-- Both scalars lie between zero and the group order. -/
def Signature.inRange (sig : Signature) : Bool :=
  0 < sig.r.toNat && sig.r.toNat < n && 0 < sig.s.toNat && sig.s.toNat < n

/-- The key that made the signature of a digest; the high form is refused. -/
def recover? (digest : Hash) (sig : Signature) : Option PublicKey := do
  let z := digest.toNat % n
  let r := sig.r.toNat
  let s := sig.s.toNat
  if !sig.inRange || halfOrder < s then none
  else
    let point ← lift? r sig.odd
    let i := inverse n r
    let u1 := (n - i * z % n) % n
    let u2 := i * s % n
    let (x, y) ← ((generator.mul 256 u1).add (point.mul 256 u2)).affine?
    some ⟨x, y⟩

end EvmClient.Ecdsa
