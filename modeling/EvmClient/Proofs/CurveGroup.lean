import EvmClient.Curve.Ecdsa
import EvmClient.Proofs.CurvePrimes
import Mathlib

/-
What is computed with on the curve is its group.

   The points of the curve are those that Mathlib has for an equation over a field, with the group that these form.
   Coordinates `(x, y, z)` show the point `(x / z², y / z³)`, or the neutral one if `z` is zero, and what is computed with
   them follows the sum in the group. As the order of the group is a prime, of which the generator's multiple is neutral,
   no smaller multiple but the one by zero is.

   1. `Shows.double`, `Shows.add`, `Shows.mul` — the computed coordinates show twice a point, a sum and a multiple.
   2. `addOrderOf_base` — the order of the generator.
   3. `publicKey?_isSome` — so every private key has a public key. -/
namespace EvmClient.Secp256k1

instance : Fact p.Prime := ⟨prime_p⟩

/-! ## The curve -/

/-- The curve as an equation over the field. -/
def curve : WeierstrassCurve.Affine (ZMod p) := ⟨0, 0, 0, 0, 7⟩

section
variable {x y x' y' slope : ZMod p}

theorem negY_curve : curve.negY x y = -y := by simp [curve, WeierstrassCurve.Affine.negY]

theorem addX_curve : curve.addX x x' slope = slope ^ 2 - x - x' := by simp [curve, WeierstrassCurve.Affine.addX]

theorem addY_curve : curve.addY x x' y slope = slope * (x - curve.addX x x' slope) - y := by
  rw [WeierstrassCurve.Affine.addY, negY_curve, WeierstrassCurve.Affine.negAddY]
  ring

theorem equation_curve : curve.Equation x y ↔ y ^ 2 = x ^ 3 + 7 := by
  simp [WeierstrassCurve.Affine.equation_iff, curve]

theorem two_ne_zero_field : (2 : ZMod p) ≠ 0 := by
  have h : ((2 : ℕ) : ZMod p) ≠ 0 := by
    rw [ne_eq, ZMod.natCast_eq_zero_iff]
    decide
  exact_mod_cast h

theorem ne_negY (hy : y ≠ 0) : y ≠ curve.negY x y := by
  rw [negY_curve]
  intro heq
  have htwice : 2 * y = 0 := by linear_combination heq
  exact mul_ne_zero two_ne_zero_field hy htwice

theorem slope_tangent (hy : y ≠ 0) : curve.slope x x y y = 3 * x ^ 2 / (2 * y) := by
  rw [WeierstrassCurve.Affine.slope_of_Y_ne rfl (ne_negY hy), negY_curve]
  simp [curve, two_mul]

/-- Every solution of the equation is a point. -/
theorem nonsingular_curve (h : y ^ 2 = x ^ 3 + 7) : curve.Nonsingular x y := by
  have hdiscriminant : curve.Δ = -((21168 : ℕ) : ZMod p) := by
    simp [curve, WeierstrassCurve.Δ, WeierstrassCurve.b₂, WeierstrassCurve.b₄, WeierstrassCurve.b₆, WeierstrassCurve.b₈]
    norm_num
  have hne : curve.Δ ≠ 0 := by
    rw [hdiscriminant, neg_ne_zero, ne_eq, ZMod.natCast_eq_zero_iff]
    decide
  exact (WeierstrassCurve.Affine.equation_iff_nonsingular_of_Δ_ne_zero hne).1 (equation_curve.2 h)

end

/-! ## Coordinates -/

theorem cast_sub (a b : ℕ) : ((sub a b : ℕ) : ZMod p) = a - b := by
  have hle : b % p ≤ p := Nat.le_of_lt (Nat.mod_lt b prime_p.pos)
  rw [sub, ZMod.natCast_mod, Nat.cast_add, Nat.cast_sub hle, ZMod.natCast_self, ZMod.natCast_mod, zero_sub, sub_eq_add_neg]

/-- Numbers that are reduced are equal exactly if they are so in the field. -/
theorem mod_eq_iff (a b : ℕ) : a % p = b % p ↔ (a : ZMod p) = b := (ZMod.natCast_eq_natCast_iff' a b p).symm

theorem scaled_eq_iff {u v c d : ZMod p} (hc : c ≠ 0) (hd : d ≠ 0) : u * c * d = v * d * c ↔ u = v := by
  constructor
  · intro h
    apply mul_right_cancel₀ (mul_ne_zero hc hd)
    linear_combination h
  · intro h
    rw [h]
    ring

namespace Jacobian

/-- The coordinates of an affine point. -/
structure At (a : Jacobian) (x y : ZMod p) : Prop where
  z_ne_zero : (a.z : ZMod p) ≠ 0
  x_eq : (a.x : ZMod p) = x * a.z ^ 2
  y_eq : (a.y : ZMod p) = y * a.z ^ 3

/-- The point that coordinates show. -/
inductive Shows (a : Jacobian) : curve.Point → Prop
  | zero (hz : a.z = 0) : Shows a 0
  | point {x y : ZMod p} (h : curve.Nonsingular x y) (hat : a.At x y) : Shows a (.some x y h)

variable {a b : Jacobian} {P Q : curve.Point} {x y x' y' : ZMod p}

theorem At.z_ne (h : a.At x y) : a.z ≠ 0 := by
  intro hz
  apply h.z_ne_zero
  rw [hz, Nat.cast_zero]

theorem Shows.ne_zero (h : Shows a P) (hP : P ≠ 0) : a.z ≠ 0 := by
  cases h with
  | zero => exact absurd rfl hP
  | point h hat => exact hat.z_ne

theorem Shows.eq_zero (h : Shows a P) (hz : a.z = 0) : P = 0 := by
  cases h with
  | zero => rfl
  | point h hat => exact absurd hz hat.z_ne

theorem shows_neutral : Shows neutral 0 := .zero rfl

/-! ## Twice a point -/

/-- A point without an ordinate is its own opposite. -/
theorem double_z_eq_zero (h : (a.y : ZMod p) = 0) : a.double.z = 0 := by
  unfold double
  split
  · rfl
  · have hz : ((2 * a.y * a.z : ℕ) : ZMod p) = 0 := by
      rw [Nat.cast_mul, Nat.cast_mul, h, mul_zero, zero_mul]
    exact Nat.mod_eq_zero_of_dvd ((ZMod.natCast_eq_zero_iff _ _).1 hz)

theorem double_eq (hz : a.z ≠ 0) (hy : a.y ≠ 0) :
    ((a.double.x : ℕ) : ZMod p) = (3 * a.x * a.x) * (3 * a.x * a.x) - 2 * (4 * a.x * (a.y * a.y)) ∧
      ((a.double.y : ℕ) : ZMod p) =
        3 * a.x * a.x * (4 * a.x * (a.y * a.y) - a.double.x) - 8 * (a.y * a.y) * (a.y * a.y) ∧
      ((a.double.z : ℕ) : ZMod p) = 2 * a.y * a.z := by
  have hcond : ¬(a.z = 0 ∨ a.y = 0) := by simp [hz, hy]
  unfold double
  rw [if_neg hcond]
  refine ⟨?_, ?_, ?_⟩
  · simp only [cast_sub, Nat.cast_mul, ZMod.natCast_mod, Nat.cast_ofNat]
  · simp only [cast_sub, Nat.cast_mul, ZMod.natCast_mod, Nat.cast_ofNat]
  · simp only [Nat.cast_mul, ZMod.natCast_mod, Nat.cast_ofNat]

/-- The doubled coordinates are those of where the tangent leads. -/
theorem At.double (h : a.At x y) (hy : y ≠ 0) :
    a.double.At (curve.addX x x (curve.slope x x y y)) (curve.addY x x y (curve.slope x x y y)) := by
  have htwo : (2 : ZMod p) ≠ 0 := two_ne_zero_field
  have hz := h.z_ne_zero
  have hordinate : a.y ≠ 0 := by
    intro hzero
    have hproduct := h.y_eq
    rw [hzero, Nat.cast_zero] at hproduct
    exact mul_ne_zero hy (pow_ne_zero 3 hz) hproduct.symm
  obtain ⟨hx', hy', hz'⟩ := double_eq h.z_ne hordinate
  have hxx : ((a.double.x : ℕ) : ZMod p) = curve.addX x x (curve.slope x x y y) * a.double.z ^ 2 := by
    rw [hx', hz', h.x_eq, h.y_eq, addX_curve, slope_tangent hy]
    field_simp
    ring
  refine ⟨?_, hxx, ?_⟩
  · rw [hz', h.y_eq]
    exact mul_ne_zero (mul_ne_zero htwo (mul_ne_zero hy (pow_ne_zero 3 hz))) hz
  · rw [hy', hxx, hz', h.x_eq, h.y_eq, addY_curve, slope_tangent hy]
    field_simp
    ring

/-- The doubled coordinates show twice the point. -/
theorem Shows.double (h : Shows a P) : Shows a.double (P + P) := by
  cases h with
  | zero hz =>
    rw [add_zero]
    apply Shows.zero
    rw [Jacobian.double, if_pos (.inl hz)]
    rfl
  | @point x y h hat =>
    by_cases hzero : y = 0
    · rw [WeierstrassCurve.Affine.Point.add_self_of_Y_eq (by rw [negY_curve, hzero, neg_zero])]
      apply Shows.zero
      apply double_z_eq_zero
      rw [hat.y_eq, hzero, zero_mul]
    · rw [WeierstrassCurve.Affine.Point.add_self_of_Y_ne (ne_negY hzero)]
      exact .point _ (hat.double hzero)

/-! ## Sums -/

theorem At.abscissa_iff (ha : a.At x y) (hb : b.At x' y') : (a.x * b.z ^ 2 : ZMod p) = b.x * a.z ^ 2 ↔ x = x' := by
  rw [ha.x_eq, hb.x_eq]
  exact scaled_eq_iff (pow_ne_zero 2 ha.z_ne_zero) (pow_ne_zero 2 hb.z_ne_zero)

theorem At.ordinate_iff (ha : a.At x y) (hb : b.At x' y') : (a.y * b.z ^ 3 : ZMod p) = b.y * a.z ^ 3 ↔ y = y' := by
  rw [ha.y_eq, hb.y_eq]
  exact scaled_eq_iff (pow_ne_zero 3 ha.z_ne_zero) (pow_ne_zero 3 hb.z_ne_zero)

theorem add_eq (ha : a.z ≠ 0) (hb : b.z ≠ 0) (hne : (a.x * b.z ^ 2 : ZMod p) ≠ b.x * a.z ^ 2) :
    (((a.add b).x : ℕ) : ZMod p) = (b.y * a.z ^ 3 - a.y * b.z ^ 3) ^ 2 - (b.x * a.z ^ 2 - a.x * b.z ^ 2) ^ 3 -
        2 * (a.x * b.z ^ 2 * (b.x * a.z ^ 2 - a.x * b.z ^ 2) ^ 2) ∧
      (((a.add b).y : ℕ) : ZMod p) = (b.y * a.z ^ 3 - a.y * b.z ^ 3) *
          (a.x * b.z ^ 2 * (b.x * a.z ^ 2 - a.x * b.z ^ 2) ^ 2 - (a.add b).x) -
        a.y * b.z ^ 3 * (b.x * a.z ^ 2 - a.x * b.z ^ 2) ^ 3 ∧
      (((a.add b).z : ℕ) : ZMod p) = (b.x * a.z ^ 2 - a.x * b.z ^ 2) * a.z * b.z := by
  have hcond : ¬a.x * (b.z * b.z % p) % p = b.x * (a.z * a.z % p) % p := by
    rw [mod_eq_iff]
    simpa only [Nat.cast_mul, ZMod.natCast_mod, sq] using hne
  unfold add
  rw [if_neg ha, if_neg hb]
  dsimp only
  rw [if_neg hcond]
  refine ⟨?_, ?_, ?_⟩
  · simp only [cast_sub, Nat.cast_mul, ZMod.natCast_mod, Nat.cast_ofNat]
    ring
  · simp only [cast_sub, Nat.cast_mul, ZMod.natCast_mod, Nat.cast_ofNat]
    ring
  · simp only [cast_sub, Nat.cast_mul, ZMod.natCast_mod]
    ring

/-- Points of one abscissa are doubled if they are the same, and add up to nothing otherwise. -/
theorem add_of_same (ha : a.z ≠ 0) (hb : b.z ≠ 0) (heq : (a.x * b.z ^ 2 : ZMod p) = b.x * a.z ^ 2) :
    a.add b = if (a.y * b.z ^ 3 : ZMod p) = b.y * a.z ^ 3 then a.double else neutral := by
  have hcond : a.x * (b.z * b.z % p) % p = b.x * (a.z * a.z % p) % p := by
    rw [mod_eq_iff]
    simpa only [Nat.cast_mul, ZMod.natCast_mod, sq] using heq
  have hiff : a.y * (b.z * b.z % p) * b.z % p = b.y * (a.z * a.z % p) * a.z % p ↔
      (a.y * b.z ^ 3 : ZMod p) = b.y * a.z ^ 3 := by
    rw [mod_eq_iff]
    simp only [Nat.cast_mul, ZMod.natCast_mod]
    ring_nf
  unfold add
  rw [if_neg ha, if_neg hb]
  dsimp only
  rw [if_pos hcond]
  simp only [hiff]

/-- The added coordinates are those of where the chord leads. -/
theorem At.add (ha : a.At x y) (hb : b.At x' y') (hne : x ≠ x') :
    (a.add b).At (curve.addX x x' (curve.slope x x' y y')) (curve.addY x x' y (curve.slope x x' y y')) := by
  have hz := ha.z_ne_zero
  have hz' := hb.z_ne_zero
  have hdiff : x - x' ≠ 0 := sub_ne_zero.2 hne
  have hslope : curve.slope x x' y y' = (y - y') / (x - x') := WeierstrassCurve.Affine.slope_of_X_ne hne
  obtain ⟨hsx, hsy, hsz⟩ := add_eq ha.z_ne hb.z_ne (mt (ha.abscissa_iff hb).1 hne)
  have hxx : (((a.add b).x : ℕ) : ZMod p) = curve.addX x x' (curve.slope x x' y y') * (a.add b).z ^ 2 := by
    rw [hsx, hsz, ha.x_eq, ha.y_eq, hb.x_eq, hb.y_eq, addX_curve, hslope]
    field_simp
    ring
  refine ⟨?_, hxx, ?_⟩
  · have hfactor : (x' * b.z ^ 2 * a.z ^ 2 - x * a.z ^ 2 * b.z ^ 2 : ZMod p) = -(x - x') * (a.z ^ 2 * b.z ^ 2) := by
      ring
    rw [hsz, ha.x_eq, hb.x_eq, hfactor]
    exact mul_ne_zero (mul_ne_zero (mul_ne_zero (neg_ne_zero.2 hdiff)
      (mul_ne_zero (pow_ne_zero 2 hz) (pow_ne_zero 2 hz'))) hz) hz'
  · rw [hsy, hxx, hsz, ha.x_eq, ha.y_eq, hb.x_eq, hb.y_eq, addY_curve, hslope]
    field_simp
    ring

/-- The added coordinates show the sum of the points. -/
theorem Shows.add (ha : Shows a P) (hb : Shows b Q) : Shows (a.add b) (P + Q) := by
  have hshown := ha
  cases ha with
  | zero hz =>
    rw [Jacobian.add, if_pos hz, zero_add]
    exact hb
  | @point x y h hat =>
    cases hb with
    | zero hz =>
      rw [Jacobian.add, if_neg hat.z_ne, if_pos hz, add_zero]
      exact hshown
    | @point x' y' h' hat' =>
      by_cases heq : x = x'
      · rw [add_of_same hat.z_ne hat'.z_ne ((hat.abscissa_iff hat').2 heq)]
        subst heq
        by_cases hyy : y = y'
        · rw [if_pos ((hat.ordinate_iff hat').2 hyy)]
          subst hyy
          exact hshown.double
        · have hopposite := (WeierstrassCurve.Affine.Y_eq_of_X_eq h.1 h'.1 rfl).resolve_left hyy
          rw [if_neg (mt (hat.ordinate_iff hat').1 hyy), WeierstrassCurve.Affine.Point.add_of_Y_eq rfl hopposite]
          exact shows_neutral
      · rw [WeierstrassCurve.Affine.Point.add_of_X_ne heq]
        exact .point _ (hat.add hat' heq)

/-! ## Multiples -/

/-- The coordinates of a multiple show the multiple of the point. -/
theorem Shows.mul (h : Shows a P) {bits k : ℕ} (hk : k < 2 ^ bits) : Shows (a.mul bits k) (k • P) := by
  induction bits generalizing k with
  | zero =>
    have hzero : k = 0 := by simpa using hk
    rw [hzero, zero_nsmul]
    exact shows_neutral
  | succ bits ih =>
    have hhalf : k / 2 < 2 ^ bits := by
      rw [pow_succ] at hk
      omega
    have hdouble := (ih hhalf).double
    rw [← add_nsmul, ← two_mul] at hdouble
    rw [Jacobian.mul]
    split
    next hodd =>
      have hsum := hdouble.add h
      have hk : 2 * (k / 2) + 1 = k := by omega
      rwa [← succ_nsmul, hk] at hsum
    next heven =>
      have hk : 2 * (k / 2) = k := by omega
      rwa [hk] at hdouble

end Jacobian

/-! ## The generator -/

theorem nonsingular_generator : curve.Nonsingular (generator.x : ZMod p) (generator.y : ZMod p) := by
  apply nonsingular_curve
  have h : generator.y ^ 2 % p = (generator.x ^ 3 + 7) % p := by decide
  exact_mod_cast (mod_eq_iff _ _).1 h

/-- The generator as a point of the curve. -/
def base : curve.Point := .some _ _ nonsingular_generator

theorem shows_base : generator.Shows base := by
  have hz : ((generator.z : ℕ) : ZMod p) = 1 := Nat.cast_one
  refine .point _ ⟨?_, ?_, ?_⟩
  · rw [hz]
    exact one_ne_zero
  · rw [hz, one_pow, mul_one]
  · rw [hz, one_pow, mul_one]

theorem order_smul_base : n • base = 0 := by
  have hfits : n < 2 ^ 256 := by decide
  have hcomputed : (generator.mul 256 n).z = 0 := by decide +kernel
  exact (shows_base.mul hfits).eq_zero hcomputed

/-- The generator has the order of the group, as this is a prime. -/
theorem addOrderOf_base : addOrderOf base = n := by
  have : Fact n.Prime := ⟨prime_n⟩
  exact addOrderOf_eq_prime order_smul_base (WeierstrassCurve.Affine.Point.some_ne_zero _)

/-- Only multiples by a multiple of the order are neutral. -/
theorem mul_generator_z {k : ℕ} (hpos : 0 < k) (hlt : k < n) : (generator.mul 256 k).z ≠ 0 := by
  have hfits : k < 2 ^ 256 := by
    have : n < 2 ^ 256 := by decide
    omega
  refine (shows_base.mul hfits).ne_zero ?_
  intro hzero
  have hdvd := addOrderOf_dvd_iff_nsmul_eq_zero.2 hzero
  rw [addOrderOf_base] at hdvd
  exact absurd (Nat.le_of_dvd hpos hdvd) (Nat.not_le_of_lt hlt)

end EvmClient.Secp256k1

/-! ## Keys -/

namespace EvmClient.Ecdsa

/-- Every private key has a public key. -/
theorem PrivateKey.publicKey?_isSome (k : PrivateKey) : k.publicKey?.isSome = true := by
  have hz := Secp256k1.mul_generator_z k.pos k.lt
  rw [publicKey?, Option.isSome_map, Secp256k1.Jacobian.affine?, if_neg hz]
  rfl

end EvmClient.Ecdsa
