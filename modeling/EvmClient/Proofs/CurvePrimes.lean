import EvmClient.Curve.Secp256k1
import Mathlib

/-
The size of the field and the order of the group are prime.

   Both are shown by certificates: a number is prime if there is a base whose power to the number less one is one, while
   no power to a part of this exponent by a prime factor of it is. The factors are certified in their turn, down to those
   that are small. The powers are those that the curve computes with, `powMod`.

   1. `powMod_eq` — what `powMod` computes.
   2. `prime_of_checked` — what is certified is prime.
   3. `prime_p`, `prime_n` — so are the two numbers. -/
namespace EvmClient.Secp256k1

/-! ## Powers -/

/-- The power modulo `m`, if the exponent has no more than so many bits. -/
theorem powMod_eq (m b : ℕ) {bits e : ℕ} (h : e < 2 ^ bits) : powMod m b bits e = b ^ e % m := by
  induction bits generalizing e with
  | zero =>
    have he : e = 0 := by simpa using h
    rw [he, powMod, pow_zero]
  | succ bits ih =>
    have hhalf : e / 2 < 2 ^ bits := by
      rw [pow_succ] at h
      omega
    have hsquare : b ^ (e / 2) % m * (b ^ (e / 2) % m) % m = b ^ (2 * (e / 2)) % m := by
      rw [← Nat.mul_mod, ← pow_add, two_mul]
    simp only [powMod, ih hhalf, hsquare]
    split
    next hodd =>
      have he : 2 * (e / 2) + 1 = e := by omega
      rw [Nat.mod_mul_mod, ← pow_succ, he]
    next heven =>
      have he : 2 * (e / 2) = e := by omega
      rw [he]

/-! ## Certificates -/

/-- A number, a base of which powers are looked at, and the prime factors of the number less one, as often as they
occur. -/
structure PrimeCertificate where
  number : ℕ
  base : ℕ
  factors : List ℕ

namespace PrimeCertificate

def power (c : PrimeCertificate) (e : ℕ) : ℕ := powMod c.number c.base 256 e

/-- Whether a certificate is good, if these numbers are known to be prime. -/
def isGood (known : List ℕ) (c : PrimeCertificate) : Bool :=
  1 < c.number && c.number < Word256.size && c.factors.prod = c.number - 1 && c.power (c.number - 1) = 1 &&
    c.factors.all fun q => known.contains q && c.power ((c.number - 1) / q) != 1

/-- Whether certificates are good, each with what stands before it. -/
def areGood (known : List ℕ) : List PrimeCertificate → Bool
  | [] => true
  | c :: rest => c.isGood known && areGood (c.number :: known) rest

variable {known : List ℕ} {c : PrimeCertificate} {e : ℕ}

theorem power_eq_one_iff (hone : 1 < c.number) (he : e < Word256.size) :
    c.power e = 1 ↔ (c.base : ZMod c.number) ^ e = 1 := by
  have hsize : Word256.size = 2 ^ 256 := rfl
  have hcast : (c.base : ZMod c.number) ^ e = 1 ↔ ((c.base ^ e : ℕ) : ZMod c.number) = (1 : ℕ) := by
    rw [Nat.cast_pow, Nat.cast_one]
  rw [power, powMod_eq _ _ (hsize ▸ he), hcast, ZMod.natCast_eq_natCast_iff', Nat.mod_eq_of_lt hone]

theorem prime_of_isGood (hknown : ∀ q ∈ known, q.Prime) (h : c.isGood known = true) : c.number.Prime := by
  simp only [isGood, Bool.and_eq_true, decide_eq_true_eq, List.all_eq_true, List.contains_iff_mem, bne_iff_ne] at h
  obtain ⟨⟨⟨⟨hone, hsize⟩, hprod⟩, hpower⟩, hfactors⟩ := h
  have hfits : ∀ e, e ≤ c.number - 1 → e < Word256.size := by
    intro e he
    omega
  apply lucas_primality c.number c.base
  · exact (power_eq_one_iff hone (hfits _ (Nat.le_refl _))).1 hpower
  · intro q hq hdvd
    rw [← hprod] at hdvd
    obtain ⟨r, hr, hqr⟩ := (Prime.dvd_prod_iff hq.prime).1 hdvd
    obtain rfl : q = r := (Nat.prime_dvd_prime_iff_eq hq (hknown r (hfactors r hr).1)).1 hqr
    rw [ne_eq, ← power_eq_one_iff hone (hfits _ (Nat.div_le_self _ _))]
    exact (hfactors q hr).2

theorem prime_of_checked {certificates : List PrimeCertificate} (hknown : ∀ q ∈ known, q.Prime)
    (h : areGood known certificates = true) : ∀ m ∈ certificates.map number, m.Prime := by
  induction certificates generalizing known with
  | nil => simp
  | cons c rest ih =>
    rw [areGood, Bool.and_eq_true] at h
    have hc := prime_of_isGood hknown h.1
    exact List.forall_mem_cons.2 ⟨hc, ih (List.forall_mem_cons.2 ⟨hc, hknown⟩) h.2⟩

end PrimeCertificate

/-! ## The two numbers -/

/-- The small primes among the factors. -/
def smallPrimes : List ℕ :=
  [2, 3, 5, 7, 11, 13, 17, 19, 23, 29, 31, 41, 53, 59, 97, 109, 149, 293, 461, 631, 797, 971, 1373, 1627, 1871, 2011, 2621,
    2657, 4051, 4423, 5323, 7723, 9349, 13441, 16699, 20113, 24809, 28181, 41201, 85831, 96557, 120233, 305873]

theorem prime_of_small : ∀ q ∈ smallPrimes, q.Prime := by
  simp only [smallPrimes, List.forall_mem_cons]
  norm_num

/-- The large primes among the factors, and the two numbers. -/
def certificates : List PrimeCertificate :=
  [ ⟨1206781, 10, [2, 2, 3, 5, 20113]⟩,
    ⟨7240687, 3, [2, 3, 1206781]⟩,
    ⟨13331831, 13, [2, 5, 971, 1373]⟩,
    ⟨107590001, 3, [2, 2, 2, 2, 5, 5, 5, 5, 7, 29, 53]⟩,
    ⟨173378833005251801, 6, [2, 2, 2, 5, 5, 2621, 24809, 13331831]⟩,
    ⟨22149492674086928081353, 5, [2, 2, 2, 3, 5323, 173378833005251801]⟩,
    ⟨132896956044521568488119, 6, [2, 3, 22149492674086928081353]⟩,
    ⟨255515944373312847190720520512484175977, 3,
      [2, 2, 2, 7, 7, 11, 1627, 2657, 4423, 41201, 96557, 7240687, 107590001]⟩,
    ⟨205115282021455665897114700593932402728804164701536103180137503955397371, 10,
      [2, 3, 5, 29, 29, 31, 7723, 132896956044521568488119, 255515944373312847190720520512484175977]⟩,
    ⟨p, 3, [2, 3, 7, 13441, 205115282021455665897114700593932402728804164701536103180137503955397371]⟩,
    ⟨1627771, 3, [2, 3, 5, 29, 1871]⟩,
    ⟨4681609, 23, [2, 2, 2, 3, 97, 2011]⟩,
    ⟨44706919, 6, [2, 3, 797, 9349]⟩,
    ⟨545358713, 5, [2, 2, 2, 41, 59, 28181]⟩,
    ⟨297159362677, 2, [2, 2, 3, 3, 11, 461, 1627771]⟩,
    ⟨107361793816595537, 3, [2, 2, 2, 2, 16699, 85831, 4681609]⟩,
    ⟨174723607534414371449, 3, [2, 2, 2, 17, 59, 4051, 120233, 44706919]⟩,
    ⟨29047611873442575647497758179, 2, [2, 293, 305873, 545358713, 297159362677]⟩,
    ⟨341948486974166000522343609283189, 2, [2, 2, 3, 3, 3, 109, 29047611873442575647497758179]⟩,
    ⟨n, 7, [2, 2, 2, 2, 2, 2, 3, 149, 631, 107361793816595537, 174723607534414371449,
      341948486974166000522343609283189]⟩ ]

theorem certificates_good : PrimeCertificate.areGood smallPrimes certificates = true := by decide +kernel

theorem prime_p : p.Prime := PrimeCertificate.prime_of_checked prime_of_small certificates_good p (by decide)

theorem prime_n : n.Prime := PrimeCertificate.prime_of_checked prime_of_small certificates_good n (by decide)

end EvmClient.Secp256k1
