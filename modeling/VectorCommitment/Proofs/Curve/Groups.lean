import Mathlib.FieldTheory.Finite.Basic
import Mathlib.GroupTheory.Perm.Cycle.Type
import Mathlib.GroupTheory.SpecificGroups.Cyclic.Basic
import VectorCommitment.Proofs.Curve.Multiple
import VectorCommitment.Proofs.Field.Quadratic

/-! The groups behind the two source groups. The curve has as many points as the group order says,
so every point of it is a multiple of the generator; of the twist only the generator is known. -/

namespace VectorCommitment

open Point

namespace Fp

instance : Fintype Fp := inferInstanceAs (Fintype (Fin fieldModulus))

lemma card_eq : Fintype.card Fp = fieldModulus := Fintype.card_fin fieldModulus

end Fp

namespace Fp2

def pairEquiv : Fp2 ≃ Fp × Fp where
  toFun a := (a.re, a.im)
  invFun a := ⟨a.1, a.2⟩

instance : Fintype Fp2 := Fintype.ofEquiv _ pairEquiv.symm

lemma card_eq : Fintype.card Fp2 = fieldModulus * fieldModulus := by
  rw [Fintype.card_congr pairEquiv, Fintype.card_prod, Fp.card_eq]

end Fp2

/-- Minus three is no cube modulo the field modulus: its power to a third of the group's order is
not one. -/
lemma Fp.cube_add_three_ne_zero (x : Fp) : x * x * x + 3 ≠ 0 := by
  intro h
  have hcube : x.toZMod ^ 3 = (fieldModulus - 3 : ℕ) := by
    have hz := congrArg toZMod h
    rw [toZMod_add, toZMod_mul, toZMod_mul, toZMod_zero, show (3 : Fp).toZMod = 3 from toZMod_ofNat 3]
      at hz
    rw [Nat.cast_sub (by decide), ZMod.natCast_self]
    push_cast
    linear_combination hz
  have hne : x.toZMod ≠ 0 := by
    intro hx
    rw [hx] at hcube
    exact absurd hcube (by decide +kernel)
  have hone : (((fieldModulus - 3) ^ ((fieldModulus - 1) / 3) : ℕ) : ZMod fieldModulus) = (1 : ℕ) := by
    rw [Nat.cast_pow, ← hcube, ← pow_mul, Nat.cast_one,
      Nat.mul_div_cancel' (show 3 ∣ fieldModulus - 1 by decide)]
    exact ZMod.pow_card_sub_one_eq_one hne
  rw [ZMod.natCast_eq_natCast_iff', ← Primality.powMod_eq _ 256 _ _ (by decide)] at hone
  exact absurd hone (by decide +kernel)

lemma Fp2.cube_add_twistConstant_ne_zero (x : Fp2) : x * x * x + twistConstant ≠ 0 := by
  intro h
  have hcube : x ^ 3 = -twistConstant := by linear_combination h
  have hne : x ≠ 0 := by
    rintro rfl
    exact absurd h (by decide +kernel)
  have hone : (-twistConstant) ^ ((fieldModulus * fieldModulus - 1) / 3) = 1 := by
    rw [← hcube, ← pow_mul,
      Nat.mul_div_cancel' (show 3 ∣ fieldModulus * fieldModulus - 1 by decide), ← Fp2.card_eq]
    exact FiniteField.pow_card_sub_one_eq_one x hne
  exact absurd hone (by decide +kernel)

instance : HasNoHalf (3 : Fp) := ⟨by decide, Fp.cube_add_three_ne_zero⟩

instance : HasNoHalf twistConstant := ⟨by decide, Fp2.cube_add_twistConstant_ne_zero⟩

lemma isGenerator_of_nsmul {F : Type} [Field F] [DecidableEq F] {b : F} [HasNoHalf b] {g : Point F}
    (hon : g.isOn b = true) (hne : g ≠ infinity) (horder : groupOrder • g = infinity) :
    IsGenerator b g := by
  obtain ⟨P, rfl⟩ := (isOn_iff g).mp hon
  refine ⟨P, rfl, addOrderOf_eq_prime ?_ ?_⟩
  · apply ofAffine_injective
    rw [ofAffine_nsmul, horder, ofAffine_zero]
  · rintro rfl
    exact hne ofAffine_zero

instance : IsGenerator 3 G1.generator :=
  isGenerator_of_nsmul (by decide +kernel) (by decide) (by decide +kernel)

instance : IsGenerator twistConstant G2.generator :=
  isGenerator_of_nsmul (by decide +kernel) (by decide) (by decide +kernel)

namespace G1

def code : (curve (3 : Fp)).Point → Option (Fp × Bool)
  | .zero => none
  | .some x y _ => some (x, y.val < (-y).val)

lemma code_injective : Function.Injective code := by
  rintro (_ | ⟨x₁, y₁, h₁⟩) (_ | ⟨x₂, y₂, h₂⟩) h
  · rfl
  · simp [code] at h
  · simp [code] at h
  · obtain ⟨rfl, hlow⟩ : x₁ = x₂ ∧ (y₁.val < (-y₁).val ↔ y₂.val < (-y₂).val) := by
      simpa [code] using h
    have hsquares : y₁ * y₁ = y₂ * y₂ := by
      linear_combination (nonsingular_iff x₁ y₁).mp h₁ - (nonsingular_iff x₁ y₂).mp h₂
    rcases mul_self_eq_mul_self_iff.mp hsquares with rfl | rfl
    · rfl
    · rw [neg_neg] at hlow
      have hval : y₂.val = (-y₂).val := by omega
      rw [WeierstrassCurve.Affine.Point.some.injEq]
      exact ⟨rfl, (Fp.ext hval).symm⟩

instance : Finite (curve (3 : Fp)).Point := Finite.of_injective code code_injective

lemma card_le : Nat.card (curve (3 : Fp)).Point ≤ 2 * fieldModulus + 1 := by
  have hcodes := Nat.card_le_card_of_injective code code_injective
  rw [Nat.card_eq_fintype_card (α := Option (Fp × Bool)), Fintype.card_option, Fintype.card_prod,
    Fp.card_eq, Fintype.card_bool] at hcodes
  omega

lemma two_nsmul_ne_zero {P : (curve (3 : Fp)).Point} (hP : P ≠ 0) : 2 • P ≠ 0 := by
  intro h
  cases P with
  | zero => exact hP rfl
  | some x y hxy =>
    have hopposite : (WeierstrassCurve.Affine.Point.some x y hxy) = -.some x y hxy := by
      rw [eq_neg_iff_add_eq_zero, ← two_nsmul, h]
    have hpoints : affine x y = affine x (-y) :=
      (congrArg ofAffine hopposite).trans (ofAffine_neg _)
    have hy : y = -y := (affine.inj hpoints).2
    have htwo : (2 : Fp) * y = 0 := by linear_combination hy
    rcases mul_eq_zero.mp htwo with h2 | hzero
    · exact HasNoHalf.two_ne_zero (b := (3 : Fp)) h2
    · exact height_ne_zero ((nonsingular_iff x y).mp hxy) hzero

lemma card_eq : Nat.card (curve (3 : Fp)).Point = groupOrder := by
  obtain ⟨P, -, hP⟩ := IsGenerator.exists_affine (g := generator)
  obtain ⟨cofactor, hcofactor⟩ : groupOrder ∣ Nat.card (curve (3 : Fp)).Point :=
    hP ▸ addOrderOf_dvd_natCard P
  have hle := card_le
  have hpos : 0 < Nat.card (curve (3 : Fp)).Point := Nat.card_pos
  -- the bound of two points for each abscissa leaves a cofactor of two, and then there would be a
  -- point of order two
  have hodd : ¬ 2 ∣ Nat.card (curve (3 : Fp)).Point := by
    intro heven
    obtain ⟨Q, hQ⟩ := exists_prime_addOrderOf_dvd_card' 2 heven
    apply two_nsmul_ne_zero (P := Q)
    · rintro rfl
      simp at hQ
    · rw [← hQ, addOrderOf_nsmul_eq_zero]
  have hcases : cofactor = 0 ∨ cofactor = 1 ∨ cofactor = 2 := by
    have : cofactor < 3 := by
      by_contra hge
      have := Nat.mul_le_mul_left groupOrder (Nat.le_of_not_lt hge)
      have hbound : 2 * fieldModulus + 1 < groupOrder * 3 := by decide
      omega
    omega
  rcases hcases with rfl | rfl | rfl
  · omega
  · omega
  · exact absurd ⟨groupOrder, by omega⟩ hodd

lemma exists_multiple {p : G1} (hp : p.isOnCurve = true) : ∃ x, generator.multiple x = p := by
  obtain ⟨Q, rfl⟩ := (isOn_iff p).mp hp
  obtain ⟨P, hg, hP⟩ := IsGenerator.exists_affine (g := generator)
  have hne : P ≠ 0 := by
    rintro rfl
    exact absurd hP (by simpa using prime_groupOrder.one_lt.ne)
  have hmem : Q ∈ AddSubmonoid.multiples P := mem_multiples_of_prime_card card_eq hne
  obtain ⟨n, rfl⟩ := hmem
  exact ⟨n, by rw [multiple_natCast, ← hg, ofAffine_nsmul]⟩

end G1

end VectorCommitment
