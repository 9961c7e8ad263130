import Mathlib.AlgebraicGeometry.EllipticCurve.Affine.Point
import VectorCommitment.Curve.Groups

/-! On a curve `y ^ 2 = x ^ 3 + b` without points of height zero, sums and multiples by the chord
and tangent formulas are those of the group of the curve. -/

namespace VectorCommitment.Point

variable {F : Type} [Field F]

def curve (b : F) : WeierstrassCurve.Affine F := ⟨0, 0, 0, 0, b⟩

/-- No point has height zero, so none but infinity is its own opposite. -/
class HasNoHalf (b : F) : Prop where
  two_ne_zero : (2 : F) ≠ 0
  cube_add_ne_zero : ∀ x : F, x * x * x + b ≠ 0

def ofAffine {b : F} : (curve b).Point → Point F
  | .zero => infinity
  | .some x y _ => affine x y

variable {b : F}

lemma ofAffine_zero : ofAffine (0 : (curve b).Point) = infinity := rfl

lemma ofAffine_injective : Function.Injective (ofAffine (b := b)) := by
  rintro (_ | ⟨x₁, y₁, h₁⟩) (_ | ⟨x₂, y₂, h₂⟩) h
  · rfl
  · simp [ofAffine] at h
  · simp [ofAffine] at h
  · obtain ⟨rfl, rfl⟩ : x₁ = x₂ ∧ y₁ = y₂ := by simpa [ofAffine] using h
    rfl

lemma equation_iff (x y : F) : (curve b).Equation x y ↔ y * y - x * x * x = b := by
  simp only [WeierstrassCurve.Affine.equation_iff, curve]
  constructor
  · intro h
    linear_combination h
  · intro h
    linear_combination h

lemma ofAffine_neg (P : (curve b).Point) : ofAffine (-P) = -ofAffine P := by
  cases P with
  | zero => rfl
  | some x y h =>
    change affine x ((curve b).negY x y) = affine x (-y)
    simp [curve]

lemma ofAffine_some_add [DecidableEq F] {x₁ y₁ x₂ y₂ : F} (h₁ : (curve b).Nonsingular x₁ y₁)
    (h₂ : (curve b).Nonsingular x₂ y₂) (hxy : ¬(x₁ = x₂ ∧ y₁ = (curve b).negY x₂ y₂)) :
    ofAffine (.some x₁ y₁ h₁ + .some x₂ y₂ h₂) =
      reflected ((curve b).slope x₁ x₂ y₁ y₂) x₁ y₁ x₂ := by
  rw [WeierstrassCurve.Affine.Point.add_some hxy]
  simp only [ofAffine, reflected, WeierstrassCurve.Affine.addY, WeierstrassCurve.Affine.addX,
    WeierstrassCurve.Affine.negAddY, WeierstrassCurve.Affine.negY, curve, affine.injEq]
  constructor <;> ring

section GroupLaw

variable [HasNoHalf b]

lemma height_ne_zero {x y : F} (h : y * y - x * x * x = b) : y ≠ 0 := by
  rintro rfl
  apply HasNoHalf.cube_add_ne_zero (b := b) x
  linear_combination -h

lemma nonsingular_iff (x y : F) : (curve b).Nonsingular x y ↔ y * y - x * x * x = b := by
  rw [WeierstrassCurve.Affine.nonsingular_iff', equation_iff]
  refine ⟨And.left, fun h => ⟨h, Or.inr ?_⟩⟩
  simpa [curve] using ⟨HasNoHalf.two_ne_zero (b := b), height_ne_zero h⟩

variable [DecidableEq F]

lemma isOn_iff (p : Point F) : p.isOn b = true ↔ ∃ P : (curve b).Point, ofAffine P = p := by
  constructor
  · intro h
    cases p with
    | infinity => exact ⟨0, rfl⟩
    | affine x y => exact ⟨.some x y ((nonsingular_iff x y).mpr (of_decide_eq_true h)), rfl⟩
  · rintro ⟨_ | ⟨x, y, h⟩, rfl⟩
    · rfl
    · exact decide_eq_true ((nonsingular_iff x y).mp h)

lemma ofAffine_double (P : (curve b).Point) : ofAffine (P + P) = (ofAffine P).double := by
  cases P with
  | zero => rfl
  | some x y h =>
    have hy := height_ne_zero ((nonsingular_iff x y).mp h)
    have htwo : y + y ≠ 0 := by
      rw [← two_mul]
      exact mul_ne_zero (HasNoHalf.two_ne_zero (b := b)) hy
    have hne : y ≠ (curve b).negY x y := by
      intro he
      apply htwo
      nth_rewrite 1 [he]
      simp [curve]
    rw [ofAffine_some_add h h fun hxy => hne hxy.2, WeierstrassCurve.Affine.slope_of_Y_ne rfl hne]
    simp only [ofAffine, double, tangentSlope, WeierstrassCurve.Affine.negY, curve]
    congr 1
    congr 1 <;> ring

lemma ofAffine_add (P Q : (curve b).Point) : ofAffine (P + Q) = ofAffine P + ofAffine Q := by
  cases P with
  | zero => rw [← WeierstrassCurve.Affine.Point.zero_def, zero_add, ofAffine_zero, infinity_add]
  | some x₁ y₁ h₁ =>
    cases Q with
    | zero => rw [← WeierstrassCurve.Affine.Point.zero_def, add_zero, ofAffine_zero, add_infinity]
    | some x₂ y₂ h₂ =>
      change _ = Point.add (affine x₁ y₁) (affine x₂ y₂)
      rw [Point.add]
      split
      · next hx =>
        obtain rfl := hx
        split
        · next hy =>
          obtain rfl := hy
          exact ofAffine_double _
        · next hy =>
          have hopp : y₁ = (curve b).negY x₂ y₂ :=
            (WeierstrassCurve.Affine.Y_eq_of_X_eq h₁.1 h₂.1 rfl).resolve_left (Ne.symm hy)
          rw [WeierstrassCurve.Affine.Point.add_of_Y_eq rfl hopp, ofAffine_zero]
      · next hx =>
        rw [ofAffine_some_add h₁ h₂ fun hxy => hx hxy.1.symm,
          WeierstrassCurve.Affine.slope_of_X_ne (Ne.symm hx), ← neg_sub y₂, ← neg_sub x₂,
          neg_div_neg_eq]

lemma ofAffine_multipleWithin (budget n : ℕ) (P : (curve b).Point) (h : n ≤ budget) :
    multipleWithin budget n (ofAffine P) = ofAffine (n • P) := by
  induction budget generalizing n P with
  | zero =>
    obtain rfl : n = 0 := by omega
    rw [zero_nsmul]
    rfl
  | succ budget ih =>
    rw [multipleWithin]
    split
    · next hn => rw [hn, zero_nsmul, ofAffine_zero]
    · split
      · next hn => rw [hn, one_nsmul]
      · rw [← ofAffine_double, ih _ _ (by omega), ← two_nsmul, ← mul_nsmul]
        dsimp only
        split
        · have hodd : n = 2 * (n / 2) + 1 := by omega
          conv_rhs => rw [hodd, add_nsmul, one_nsmul, ofAffine_add]
        · have heven : n = 2 * (n / 2) := by omega
          conv_rhs => rw [heven]

lemma ofAffine_nsmul (n : ℕ) (P : (curve b).Point) : ofAffine (n • P) = n • ofAffine P :=
  (ofAffine_multipleWithin n n P le_rfl).symm

end GroupLaw

end VectorCommitment.Point
