import Mathlib.Data.Nat.Digits.Defs
import Mathlib.RingTheory.AdjoinRoot
import VectorCommitment.Field.Target
import VectorCommitment.Proofs.Field.Quadratic

/-! The target elements are a commutative monoid, as products of polynomials modulo
`w ^ 12 - 18 * w ^ 6 + 82`. -/

namespace VectorCommitment.Target

open Polynomial

section Coefficients

variable {R : Type*} [CommRing R] (w : R)

lemma ofDigits_cons (a : ℕ) (as : List ℕ) :
    Nat.ofDigits w (a :: as) = a + w * Nat.ofDigits w as := rfl

lemma ofDigits_append (as bs : List ℕ) :
    Nat.ofDigits w (as ++ bs) = Nat.ofDigits w as + w ^ as.length * Nat.ofDigits w bs := by
  induction as with
  | nil => simp [Nat.ofDigits]
  | cons a as ih =>
    rw [List.cons_append, ofDigits_cons, ofDigits_cons, ih, List.length_cons]
    ring

lemma ofDigits_map_mul (a : ℕ) (bs : List ℕ) :
    Nat.ofDigits w (bs.map (a * ·)) = a * Nat.ofDigits w bs := by
  induction bs with
  | nil => simp [Nat.ofDigits]
  | cons b bs ih =>
    rw [List.map_cons, ofDigits_cons, ofDigits_cons, ih]
    push_cast
    ring

lemma ofDigits_addLists (as bs : List ℕ) :
    Nat.ofDigits w (convolve.addLists as bs) = Nat.ofDigits w as + Nat.ofDigits w bs := by
  induction as generalizing bs with
  | nil => simp [convolve.addLists, Nat.ofDigits]
  | cons a as ih =>
    cases bs with
    | nil => simp [convolve.addLists, Nat.ofDigits]
    | cons b bs =>
      rw [convolve.addLists, ofDigits_cons, ofDigits_cons, ofDigits_cons, ih]
      push_cast
      ring

lemma ofDigits_convolve (as bs : List ℕ) :
    Nat.ofDigits w (convolve as bs) = Nat.ofDigits w as * Nat.ofDigits w bs := by
  induction as with
  | nil => simp [convolve, Nat.ofDigits]
  | cons a as ih =>
    cases as with
    | nil =>
      rw [convolve, ofDigits_map_mul]
      simp [Nat.ofDigits]
    | cons c cs =>
      rw [convolve, ofDigits_addLists, ofDigits_map_mul, ofDigits_cons, ih, ofDigits_cons w a]
      · push_cast
        ring
      · simp

lemma length_addLists (as bs : List ℕ) :
    (convolve.addLists as bs).length = max as.length bs.length := by
  induction as generalizing bs with
  | nil => simp [convolve.addLists]
  | cons a as ih => cases bs <;> simp [convolve.addLists, ih]

lemma length_convolve_le (as bs : List ℕ) :
    (convolve as bs).length ≤ as.length + bs.length := by
  induction as with
  | nil => simp [convolve]
  | cons a as ih =>
    cases as with
    | nil => simp [convolve]
    | cons c cs =>
      rw [convolve, length_addLists]
      · simp only [List.length_map, List.length_cons] at ih ⊢
        omega
      · simp

lemma ofDigits_eq_sum (poly : List ℕ) (n : ℕ) (h : poly.length ≤ n) :
    Nat.ofDigits w poly = ∑ k ∈ Finset.range n, (coefficient poly k : R) * w ^ k := by
  induction poly generalizing n with
  | nil => simp [Nat.ofDigits, coefficient]
  | cons a as ih =>
    obtain ⟨m, rfl⟩ : ∃ m, n = m + 1 := ⟨n - 1, by simp at h; omega⟩
    rw [ofDigits_cons, ih m (by simpa using h), Finset.sum_range_succ', Finset.mul_sum, add_comm]
    congr 1
    · apply Finset.sum_congr rfl
      intro k _
      simp only [coefficient, List.getD_cons_succ]
      ring
    · simp [coefficient]

lemma ofDigits_map_range (g : ℕ → ℕ) (n : ℕ) :
    Nat.ofDigits w ((List.range n).map g) = ∑ k ∈ Finset.range n, (g k : R) * w ^ k := by
  rw [ofDigits_eq_sum w _ n (by simp)]
  apply Finset.sum_congr rfl
  intro k hk
  have hk' : k < n := Finset.mem_range.mp hk
  simp [coefficient, List.getD_eq_getElem?_getD, hk']

lemma fold_groups (c : ℕ → R) (hw : w ^ 12 = 18 * w ^ 6 - 82) :
    ∑ k ∈ Finset.range 24, c k * w ^ k =
      ∑ k ∈ Finset.range 6, (c k + -82 * c (12 + k) + -1476 * c (18 + k)) * w ^ k +
      w ^ 6 * ∑ k ∈ Finset.range 6, (c (6 + k) + 18 * c (12 + k) + 242 * c (18 + k)) * w ^ k := by
  have hw' : w ^ 18 = 242 * w ^ 6 - 1476 := by linear_combination (w ^ 6 + 18) * hw
  rw [show (24 : ℕ) = 6 + 6 + 6 + 6 by rfl, Finset.sum_range_add, Finset.sum_range_add,
    Finset.sum_range_add, Finset.mul_sum, ← Finset.sum_add_distrib, ← Finset.sum_add_distrib,
    ← Finset.sum_add_distrib, ← Finset.sum_add_distrib]
  apply Finset.sum_congr rfl
  intro k _
  simp only [show 6 + 6 = 12 by rfl, show 12 + 6 = 18 by rfl]
  linear_combination c (12 + k) * w ^ k * hw + c (18 + k) * w ^ k * hw'

lemma natCast_mod (hp : ((fieldModulus : ℕ) : R) = 0) (n : ℕ) :
    ((n % fieldModulus : ℕ) : R) = n := by
  conv_rhs => rw [← Nat.mod_add_div n fieldModulus, Nat.cast_add, Nat.cast_mul, hp, zero_mul,
    add_zero]

lemma ofDigits_reduce (hp : ((fieldModulus : ℕ) : R) = 0) (hw : w ^ 12 = 18 * w ^ 6 - 82)
    (poly : List ℕ) (h : poly.length ≤ 24) :
    Nat.ofDigits w ((reduce poly).coeffs.map (·.val)) = Nat.ofDigits w poly := by
  have h82 : ((fieldModulus - 82 : ℕ) : R) = -82 := by
    rw [Nat.cast_sub (by decide), hp, zero_sub, Nat.cast_ofNat]
  have h1476 : ((fieldModulus - 1476 : ℕ) : R) = -1476 := by
    rw [Nat.cast_sub (by decide), hp, zero_sub, Nat.cast_ofNat]
  rw [ofDigits_eq_sum _ poly 24 h, fold_groups _ _ hw, reduce]
  simp only [List.map_append, List.map_map, Function.comp_def, Fp.val_ofNat]
  rw [ofDigits_append, ofDigits_map_range, ofDigits_map_range, List.length_map, List.length_range]
  simp only [natCast_mod hp, Nat.cast_add, Nat.cast_mul, h82, h1476, Nat.cast_ofNat]

end Coefficients

noncomputable def modulusPolynomial : (ZMod fieldModulus)[X] := X ^ 12 - (18 * X ^ 6 - 82)

lemma degree_tail : (18 * X ^ 6 - 82 : (ZMod fieldModulus)[X]).degree < 12 := by
  compute_degree!

lemma degree_modulusPolynomial : modulusPolynomial.degree = 12 := by
  rw [modulusPolynomial, degree_sub_eq_left_of_degree_lt] <;> rw [degree_X_pow]
  · rfl
  · exact degree_tail

abbrev Residues : Type := AdjoinRoot modulusPolynomial

noncomputable def residue (a : Target) : Residues :=
  Nat.ofDigits (AdjoinRoot.root modulusPolynomial) (a.coeffs.map (·.val))

noncomputable def polynomial (a : Target) : (ZMod fieldModulus)[X] :=
  Nat.ofDigits X (a.coeffs.map (·.val))

lemma coeff_ofDigits (poly : List ℕ) (k : ℕ) :
    (Nat.ofDigits (X : (ZMod fieldModulus)[X]) poly).coeff k = coefficient poly k := by
  induction poly generalizing k with
  | nil => simp [Nat.ofDigits, coefficient]
  | cons a as ih =>
    rw [ofDigits_cons]
    cases k with
    | zero => simp [coefficient]
    | succ k => simp [coefficient, ih, coeff_X_mul, coeff_natCast_ite]

lemma degree_polynomial_lt (a : Target) : a.polynomial.degree < 12 := by
  apply (degree_lt_iff_coeff_zero _ 12).mpr
  intro k hk
  simp [polynomial, coeff_ofDigits, coefficient, List.getD_eq_getElem?_getD, a.length_eq, hk]

lemma polynomial_injective : Function.Injective polynomial := by
  intro a b h
  ext1
  apply List.ext_getElem (by rw [a.length_eq, b.length_eq])
  intro k hka hkb
  apply Fp.toZMod_injective
  have hk := congrArg (coeff · k) h
  simpa [polynomial, coeff_ofDigits, coefficient, List.getD_eq_getElem?_getD, hka, hkb,
    Fp.toZMod] using hk

lemma residue_eq_mk (a : Target) : a.residue = AdjoinRoot.mk modulusPolynomial a.polynomial := by
  rw [residue, polynomial]
  induction a.coeffs.map (·.val) with
  | nil => simp [Nat.ofDigits]
  | cons c cs ih =>
    rw [ofDigits_cons, ofDigits_cons, ih, map_add, map_mul, map_natCast, AdjoinRoot.mk_X]

lemma residue_injective : Function.Injective residue := by
  intro a b h
  rw [residue_eq_mk, residue_eq_mk, AdjoinRoot.mk_eq_mk] at h
  apply polynomial_injective
  apply sub_eq_zero.mp
  apply eq_zero_of_dvd_of_degree_lt h
  rw [degree_modulusPolynomial]
  exact (degree_sub_le _ _).trans_lt (max_lt a.degree_polynomial_lt b.degree_polynomial_lt)

lemma root_pow : (AdjoinRoot.root modulusPolynomial) ^ 12 =
    18 * (AdjoinRoot.root modulusPolynomial) ^ 6 - 82 := by
  have h : AdjoinRoot.mk modulusPolynomial (X ^ 12 - (18 * X ^ 6 - 82)) = 0 := AdjoinRoot.mk_self
  have h18 : AdjoinRoot.mk modulusPolynomial 18 = 18 := map_ofNat _ 18
  have h82 : AdjoinRoot.mk modulusPolynomial 82 = 82 := map_ofNat _ 82
  simpa [sub_eq_zero, h18, h82] using h

lemma natCast_fieldModulus : ((fieldModulus : ℕ) : Residues) = 0 := by
  rw [← map_natCast (algebraMap (ZMod fieldModulus) Residues), ZMod.natCast_self, map_zero]

lemma residue_reduce (poly : List ℕ) (h : poly.length ≤ 24) :
    (reduce poly).residue = Nat.ofDigits (AdjoinRoot.root modulusPolynomial) poly :=
  ofDigits_reduce _ natCast_fieldModulus root_pow poly h

lemma residue_mul (a b : Target) : (a * b).residue = a.residue * b.residue := by
  have hlen := length_convolve_le (a.coeffs.map (·.val)) (b.coeffs.map (·.val))
  simp only [List.length_map, a.length_eq, b.length_eq] at hlen
  exact (residue_reduce _ hlen).trans (ofDigits_convolve _ _ _)

lemma residue_one : (1 : Target).residue = 1 := by
  rw [residue, show (1 : Target).coeffs.map (·.val) = 1 :: List.replicate 11 0 by decide]
  simp [Nat.ofDigits, List.replicate]

instance : CommSemigroup Target where
  mul_assoc a b c := residue_injective (by simp only [residue_mul, mul_assoc])
  mul_comm a b := residue_injective (by simp only [residue_mul, mul_comm])

lemma pow_eq_npowRec (a : Target) (n : ℕ) : a ^ n = npowRec n a :=
  eq_npowRec powWithin (by intro budget a; cases budget <;> simp [powWithin])
    (by intro budget a n hn; simp [powWithin, hn]) n a n le_rfl

instance : CommMonoid Target where
  mul_comm := mul_comm
  one_mul a := residue_injective (by rw [residue_mul, residue_one, one_mul])
  mul_one a := residue_injective (by rw [residue_mul, residue_one, mul_one])
  npow_zero a := pow_eq_npowRec a 0
  npow_succ n a := by simp only [pow_eq_npowRec, npowRec]

end VectorCommitment.Target
