import Mathlib.Algebra.Field.ZMod
import VectorCommitment.Field.Prime
import VectorCommitment.Proofs.Field.Inverse

namespace VectorCommitment.Fp

def toZMod (a : Fp) : ZMod fieldModulus := a.val

lemma toZMod_injective : Function.Injective toZMod := by
  intro a b h
  have hval := (ZMod.natCast_eq_natCast_iff' _ _ _).mp h
  rw [Nat.mod_eq_of_lt a.val_lt, Nat.mod_eq_of_lt b.val_lt] at hval
  exact ext hval

lemma toZMod_ofNat (n : ℕ) : (ofNat n).toZMod = n := by
  simp [toZMod]

lemma toZMod_ofInt (i : ℤ) : (ofInt i).toZMod = i := by
  have hnonneg : 0 ≤ i % fieldModulus := Int.emod_nonneg _ (by decide)
  rw [ofInt, toZMod_ofNat, ← Int.cast_natCast, Int.toNat_of_nonneg hnonneg, ZMod.intCast_mod]

lemma toZMod_zero : (0 : Fp).toZMod = 0 := (toZMod_ofNat 0).trans Nat.cast_zero

lemma toZMod_one : (1 : Fp).toZMod = 1 := (toZMod_ofNat 1).trans Nat.cast_one

lemma toZMod_add (a b : Fp) : (a + b).toZMod = a.toZMod + b.toZMod := by
  have hval : (a + b).val = (a.val + b.val) % fieldModulus := Fin.val_add (n := fieldModulus) a b
  simp [toZMod, hval]

lemma toZMod_mul (a b : Fp) : (a * b).toZMod = a.toZMod * b.toZMod := by
  have hval : (a * b).val = a.val * b.val % fieldModulus := Fin.val_mul (n := fieldModulus) a b
  simp [toZMod, hval]

lemma toZMod_sub (a b : Fp) : (a - b).toZMod = a.toZMod - b.toZMod := by
  have hval : (a - b).val = (fieldModulus - b.val + a.val) % fieldModulus :=
    Fin.val_sub (n := fieldModulus) a b
  simp only [toZMod, hval, ZMod.natCast_mod, Nat.cast_add, Nat.cast_sub b.val_lt.le,
    ZMod.natCast_self]
  ring

lemma toZMod_neg (a : Fp) : (-a).toZMod = -a.toZMod := by
  have hval : (-a).val = (fieldModulus - a.val) % fieldModulus := Fin.val_neg' (n := fieldModulus) a
  simp only [toZMod, hval, ZMod.natCast_mod, Nat.cast_sub a.val_lt.le, ZMod.natCast_self, zero_sub]

lemma toZMod_inv (a : Fp) : (a⁻¹).toZMod = a.toZMod⁻¹ :=
  (toZMod_ofNat _).trans (cast_inverseMod a.val)

instance : NatCast Fp := ⟨ofNat⟩

instance : IntCast Fp := ⟨ofInt⟩

lemma toZMod_natCast (n : ℕ) : (n : Fp).toZMod = n := toZMod_ofNat n

lemma toZMod_intCast (i : ℤ) : (i : Fp).toZMod = i := toZMod_ofInt i

instance : CommRing Fp where
  add_assoc a b c := toZMod_injective (by simp only [toZMod_add, add_assoc])
  zero_add a := toZMod_injective (by simp only [toZMod_add, toZMod_zero, zero_add])
  add_zero a := toZMod_injective (by simp only [toZMod_add, toZMod_zero, add_zero])
  add_comm a b := toZMod_injective (by simp only [toZMod_add, add_comm])
  mul_assoc a b c := toZMod_injective (by simp only [toZMod_mul, mul_assoc])
  one_mul a := toZMod_injective (by simp only [toZMod_mul, toZMod_one, one_mul])
  mul_one a := toZMod_injective (by simp only [toZMod_mul, toZMod_one, mul_one])
  mul_comm a b := toZMod_injective (by simp only [toZMod_mul, mul_comm])
  left_distrib a b c := toZMod_injective (by simp only [toZMod_mul, toZMod_add, mul_add])
  right_distrib a b c := toZMod_injective (by simp only [toZMod_mul, toZMod_add, add_mul])
  zero_mul a := toZMod_injective (by simp only [toZMod_mul, toZMod_zero, zero_mul])
  mul_zero a := toZMod_injective (by simp only [toZMod_mul, toZMod_zero, mul_zero])
  neg_add_cancel a := toZMod_injective (by simp only [toZMod_add, toZMod_neg, toZMod_zero,
    neg_add_cancel])
  sub_eq_add_neg a b := toZMod_injective (by simp only [toZMod_sub, toZMod_add, toZMod_neg,
    sub_eq_add_neg])
  natCast_zero := rfl
  natCast_succ n := toZMod_injective (by
    simp only [toZMod_add, toZMod_natCast, toZMod_one, Nat.cast_succ])
  intCast_ofNat n := toZMod_injective (by
    simp only [toZMod_intCast, toZMod_natCast, Int.cast_natCast])
  intCast_negSucc n := toZMod_injective (by
    simp only [toZMod_intCast, toZMod_neg, toZMod_natCast, Int.cast_negSucc])
  nsmul := nsmulRec
  zsmul := zsmulRec

instance : Field Fp where
  exists_pair_ne := ⟨0, 1, by decide⟩
  mul_inv_cancel a ha := toZMod_injective (by
    have hne : a.toZMod ≠ 0 := fun h => ha (toZMod_injective (h.trans toZMod_zero.symm))
    rw [toZMod_mul, toZMod_inv, toZMod_one, mul_inv_cancel₀ hne])
  inv_zero := toZMod_injective (by rw [toZMod_inv, toZMod_zero, inv_zero])
  nnqsmul := _
  qsmul := _

end VectorCommitment.Fp
