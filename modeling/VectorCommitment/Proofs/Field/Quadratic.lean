import Mathlib.NumberTheory.LegendreSymbol.Basic
import Mathlib.Tactic.LinearCombination
import VectorCommitment.Field.Quadratic
import VectorCommitment.Proofs.Field.Prime

namespace VectorCommitment

lemma npowRec_double {M : Type*} [Semigroup M] [One M] (a : M) (k : ℕ) :
    npowRec (2 * k) a = npowRec k (a * a) := by
  induction k with
  | zero => rfl
  | succ k ih => rw [Nat.mul_succ, npowRec, npowRec, ih, npowRec, mul_assoc]

lemma eq_npowRec {M : Type*} [Semigroup M] [One M] (power : ℕ → M → ℕ → M)
    (hzero : ∀ budget a, power budget a 0 = 1)
    (hsucc : ∀ budget a n, n ≠ 0 → power (budget + 1) a n =
      if n % 2 = 1 then power budget (a * a) (n / 2) * a else power budget (a * a) (n / 2))
    (budget : ℕ) (a : M) (n : ℕ) (h : n ≤ budget) : power budget a n = npowRec n a := by
  induction budget generalizing a n with
  | zero =>
    obtain rfl : n = 0 := by omega
    exact hzero 0 a
  | succ budget ih =>
    by_cases hn : n = 0
    · rw [hn]
      exact hzero _ a
    · rw [hsucc budget a n hn, ih _ _ (by omega), ← npowRec_double]
      split
      · have hodd : n = 2 * (n / 2) + 1 := by omega
        conv_rhs => rw [hodd, npowRec]
      · have heven : n = 2 * (n / 2) := by omega
        conv_rhs => rw [heven]

lemma Fp.neg_one_not_square (a : Fp) : a * a ≠ -1 := by
  intro h
  have hsq : IsSquare (-1 : ZMod fieldModulus) := by
    refine ⟨a.toZMod, ?_⟩
    rw [← Fp.toZMod_mul, h, Fp.toZMod_neg, Fp.toZMod_one]
  exact ZMod.exists_sq_eq_neg_one_iff.mp hsq (by decide)

namespace Fp2

@[simp] lemma re_zero : (0 : Fp2).re = 0 := rfl
@[simp] lemma im_zero : (0 : Fp2).im = 0 := rfl
@[simp] lemma re_one : (1 : Fp2).re = 1 := rfl
@[simp] lemma im_one : (1 : Fp2).im = 0 := rfl
@[simp] lemma re_add (a b : Fp2) : (a + b).re = a.re + b.re := rfl
@[simp] lemma im_add (a b : Fp2) : (a + b).im = a.im + b.im := rfl
@[simp] lemma re_sub (a b : Fp2) : (a - b).re = a.re - b.re := rfl
@[simp] lemma im_sub (a b : Fp2) : (a - b).im = a.im - b.im := rfl
@[simp] lemma re_neg (a : Fp2) : (-a).re = -a.re := rfl
@[simp] lemma im_neg (a : Fp2) : (-a).im = -a.im := rfl
@[simp] lemma re_mul (a b : Fp2) : (a * b).re = a.re * b.re - a.im * b.im := rfl
@[simp] lemma im_mul (a b : Fp2) : (a * b).im = a.re * b.im + a.im * b.re := rfl
@[simp] lemma re_inv (a : Fp2) : (a⁻¹).re = a.re * a.norm⁻¹ := rfl
@[simp] lemma im_inv (a : Fp2) : (a⁻¹).im = -a.im * a.norm⁻¹ := rfl

instance : CommSemigroup Fp2 where
  mul_assoc a b c := by ext1 <;> simp only [re_mul, im_mul] <;> ring
  mul_comm a b := by ext1 <;> simp only [re_mul, im_mul] <;> ring

lemma pow_eq_npowRec (a : Fp2) (n : ℕ) : a ^ n = npowRec n a :=
  eq_npowRec powWithin (by intro budget a; cases budget <;> simp [powWithin])
    (by intro budget a n hn; simp [powWithin, hn]) n a n le_rfl

instance : CommRing Fp2 where
  add_assoc a b c := by ext1 <;> simp [add_assoc]
  zero_add a := by ext1 <;> simp
  add_zero a := by ext1 <;> simp
  add_comm a b := by ext1 <;> simp [add_comm]
  mul_assoc := mul_assoc
  one_mul a := by ext1 <;> simp
  mul_one a := by ext1 <;> simp
  mul_comm := mul_comm
  left_distrib a b c := by ext1 <;> simp only [re_mul, im_mul, re_add, im_add] <;> ring
  right_distrib a b c := by ext1 <;> simp only [re_mul, im_mul, re_add, im_add] <;> ring
  zero_mul a := by ext1 <;> simp
  mul_zero a := by ext1 <;> simp
  neg_add_cancel a := by ext1 <;> simp
  sub_eq_add_neg a b := by ext1 <;> simp [sub_eq_add_neg]
  npow_zero a := pow_eq_npowRec a 0
  npow_succ n a := by simp only [pow_eq_npowRec, npowRec]
  nsmul := nsmulRec
  zsmul := zsmulRec

lemma norm_ne_zero {a : Fp2} (ha : a ≠ 0) : a.norm ≠ 0 := by
  intro hnorm
  by_cases him : a.im = 0
  · have hre : a.re = 0 := by simpa [norm, him] using hnorm
    exact ha (Fp2.ext hre him)
  · apply Fp.neg_one_not_square (a.re / a.im)
    have hsum : a.re * a.re + a.im * a.im = 0 := hnorm
    field_simp
    linear_combination hsum

instance : Field Fp2 where
  exists_pair_ne := ⟨0, 1, by decide⟩
  mul_inv_cancel a ha := by
    have hnorm : (a.re * a.re + a.im * a.im) * a.norm⁻¹ = 1 := mul_inv_cancel₀ (norm_ne_zero ha)
    ext1
    · simp only [re_mul, re_inv, im_inv, re_one]
      linear_combination hnorm
    · simp only [im_mul, re_inv, im_inv, im_one]
      ring
  inv_zero := by ext1 <;> simp
  nnqsmul := _
  qsmul := _

end Fp2

end VectorCommitment
