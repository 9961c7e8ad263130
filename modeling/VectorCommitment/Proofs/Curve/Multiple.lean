import Mathlib.GroupTheory.OrderOfElement
import VectorCommitment.Proofs.Curve.GroupLaw
import VectorCommitment.Proofs.Field.Primality

namespace VectorCommitment.Point

variable {F : Type} [Field F] [DecidableEq F]

def multiple (g : Point F) (x : ZMod groupOrder) : Point F := x.val • g

noncomputable def logarithm (g p : Point F) : ZMod groupOrder := Function.invFun (multiple g) p

/-- The point is one of the curve of `b`, and its multiples are as many as the residues. -/
class IsGenerator (b : outParam F) (g : Point F) : Prop where
  exists_affine : ∃ P : (curve b).Point, ofAffine P = g ∧ addOrderOf P = groupOrder

lemma multiple_zero (g : Point F) : multiple g 0 = infinity := by
  rw [multiple, ZMod.val_zero]
  rfl

variable {b : F} [HasNoHalf b]

lemma multiple_ofAffine {P : (curve b).Point} (hP : addOrderOf P = groupOrder)
    (x : ZMod groupOrder) (n : ℕ) (hn : (n : ZMod groupOrder) = x) :
    multiple (ofAffine P) x = ofAffine (n • P) := by
  rw [multiple, ← ofAffine_nsmul, ← mod_addOrderOf_nsmul P n, hP, ← ZMod.val_natCast, hn]

variable {g : Point F} [IsGenerator b g]

include b

lemma multiple_natCast (n : ℕ) : multiple g n = n • g := by
  obtain ⟨P, rfl, hP⟩ := IsGenerator.exists_affine (g := g)
  rw [multiple_ofAffine hP _ n rfl, ofAffine_nsmul]

lemma multiple_one : multiple g 1 = g := by
  rw [← Nat.cast_one, multiple_natCast]
  rfl

lemma multiple_add (x y : ZMod groupOrder) : multiple g (x + y) = multiple g x + multiple g y := by
  obtain ⟨P, rfl, hP⟩ := IsGenerator.exists_affine (g := g)
  have hsum : ((x.val + y.val : ℕ) : ZMod groupOrder) = x + y := by
    rw [Nat.cast_add, ZMod.natCast_rightInverse, ZMod.natCast_rightInverse]
  rw [multiple_ofAffine hP _ _ hsum, add_nsmul, ofAffine_add, ofAffine_nsmul, ofAffine_nsmul]
  rfl

lemma multiple_double (x : ZMod groupOrder) : multiple g (x + x) = (multiple g x).double := by
  obtain ⟨P, rfl, hP⟩ := IsGenerator.exists_affine (g := g)
  have hsum : ((x.val + x.val : ℕ) : ZMod groupOrder) = x + x := by
    rw [Nat.cast_add, ZMod.natCast_rightInverse]
  rw [multiple_ofAffine hP _ _ hsum, add_nsmul, ofAffine_double, ofAffine_nsmul]
  rfl

lemma multiple_neg (x : ZMod groupOrder) : multiple g (-x) = -multiple g x := by
  obtain ⟨P, rfl, hP⟩ := IsGenerator.exists_affine (g := g)
  have hx := multiple_ofAffine hP x x.val (ZMod.natCast_rightInverse x)
  have hneg := multiple_ofAffine hP (-x) (-x).val (ZMod.natCast_rightInverse (-x))
  rw [hx, hneg, ← ofAffine_neg]
  congr 1
  rw [eq_neg_iff_add_eq_zero, ← add_nsmul, ← addOrderOf_dvd_iff_nsmul_eq_zero, hP,
    ← ZMod.natCast_eq_zero_iff, Nat.cast_add, ZMod.natCast_rightInverse,
    ZMod.natCast_rightInverse, neg_add_cancel]

lemma multiple_injective : Function.Injective (multiple g) := by
  obtain ⟨P, rfl, hP⟩ := IsGenerator.exists_affine (g := g)
  intro x y h
  rw [multiple_ofAffine hP x x.val (ZMod.natCast_rightInverse x),
    multiple_ofAffine hP y y.val (ZMod.natCast_rightInverse y)] at h
  have hmod := nsmul_injOn_Iio_addOrderOf (x := P) (by simpa [hP] using x.val_lt)
    (by simpa [hP] using y.val_lt) (ofAffine_injective h)
  exact ZMod.val_injective _ hmod

lemma multiple_eq_infinity_iff (x : ZMod groupOrder) : multiple g x = infinity ↔ x = 0 := by
  rw [← multiple_zero g]
  exact multiple_injective.eq_iff

lemma logarithm_multiple (x : ZMod groupOrder) : logarithm g (multiple g x) = x :=
  Function.leftInverse_invFun multiple_injective x

lemma isOn_multiple (x : ZMod groupOrder) : (multiple g x).isOn b = true := by
  obtain ⟨P, rfl, hP⟩ := IsGenerator.exists_affine (g := g)
  rw [multiple_ofAffine hP x x.val (ZMod.natCast_rightInverse x)]
  exact (isOn_iff _).mpr ⟨_, rfl⟩

end VectorCommitment.Point
