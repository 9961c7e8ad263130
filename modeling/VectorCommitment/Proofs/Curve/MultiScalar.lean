import Mathlib.Algebra.BigOperators.Group.Finset.Basic
import Mathlib.Algebra.BigOperators.Intervals
import Mathlib.Algebra.Module.BigOperators
import Mathlib.Tactic.Abel
import VectorCommitment.Curve.MultiScalar

namespace VectorCommitment.MultiScalar

variable {α A : Type} {m : Type → Type} [Monad m] [AddCommMonoid A]

/-- The operations act on the values that stand for the elements of a monoid. -/
structure Represents (add : α → α → m α) (double : α → m α) (zero : α) (f : A → α) : Prop where
  zero_eq : f 0 = zero
  add_eq : ∀ a b, add (f a) (f b) = pure (f (a + b))
  double_eq : ∀ a, double (f a) = pure (f (a + a))

def represented (f : A → α) (terms : List (A × ℕ)) : List (α × ℕ) :=
  terms.map fun term => (f term.1, term.2)

lemma foldlM_reverse_range_succ {β γ : Type} [LawfulMonad m] (step : β → γ → m β) (g : ℕ → γ)
    (count : ℕ) (init : β) :
    ((List.range (count + 1)).reverse.map g).foldlM step init =
      (step init (g count) >>= ((List.range count).reverse.map g).foldlM step) := by
  rw [List.range_succ, List.reverse_append, List.reverse_singleton, List.singleton_append,
    List.map_cons, List.foldlM_cons]

variable [LawfulMonad m] {add : α → α → m α} {double : α → m α} {zero : α} {f : A → α}

namespace Represents

variable (h : Represents add double zero f)
include h

lemma collect_eq (bits shift : ℕ) (b : ℕ → A) (a : A) (n : ℕ) :
    collect add zero bits shift ((List.range (2 ^ bits - 1)).map (f ∘ b)) (f a, n) =
      pure ((List.range (2 ^ bits - 1)).map
        (f ∘ fun k => b k + if window bits shift n = k + 1 then a else 0)) := by
  have hlt : window bits shift n < 2 ^ bits := Nat.mod_lt _ (Nat.two_pow_pos bits)
  unfold collect
  split
  · next hzero =>
    simp only [show window bits shift n = 0 from hzero, Nat.right_eq_add, Nat.add_eq_zero_iff,
      one_ne_zero, and_false, if_false, add_zero]
  · next k hk =>
    have hk : window bits shift n = k + 1 := hk
    have hget : ((List.range (2 ^ bits - 1)).map (f ∘ b)).getD k zero = f (b k) := by
      simp [List.getD_eq_getElem?_getD, List.getElem?_range (show k < 2 ^ bits - 1 by omega)]
    rw [hget, h.add_eq, pure_bind]
    congr 1
    apply List.ext_getElem
    · simp
    · intro i hi _
      by_cases hik : k = i
      · subst hik
        simp [hk]
      · simp [List.getElem_set_ne hik, hk, hik]

lemma bucketsOf_eq (bits shift : ℕ) (terms : List (A × ℕ)) :
    bucketsOf add zero bits shift (represented f terms) =
      pure ((List.range (2 ^ bits - 1)).map
        (f ∘ fun k => (terms.map fun t => if window bits shift t.2 = k + 1 then t.1 else 0).sum)) := by
  -- the buckets are filled up from any contents, which the induction on the terms needs
  have hfold : ∀ b : ℕ → A,
      (represented f terms).foldlM (collect add zero bits shift)
        ((List.range (2 ^ bits - 1)).map (f ∘ b)) =
      pure ((List.range (2 ^ bits - 1)).map (f ∘ fun k =>
        b k + (terms.map fun t => if window bits shift t.2 = k + 1 then t.1 else 0).sum)) := by
    induction terms with
    | nil =>
      intro b
      simp [represented]
    | cons t terms ih =>
      intro b
      change collect add zero bits shift _ (f t.1, t.2) >>= _ = _
      rw [h.collect_eq, pure_bind]
      refine (ih _).trans ?_
      simp only [List.map_cons, List.sum_cons, add_assoc]
  have hinit : List.replicate (Nat.pow 2 bits - 1) zero =
      (List.range (2 ^ bits - 1)).map (f ∘ fun _ => 0) := by
    simp [Function.comp_def, h.zero_eq]
  rw [bucketsOf, hinit, hfold]
  simp only [zero_add]

lemma accumulate_fold (b : ℕ → A) (count : ℕ) (running total : A) :
    ((List.range count).reverse.map (f ∘ b)).foldlM (accumulate add) (f running, f total) =
      pure (f (running + ∑ k ∈ Finset.range count, b k),
        f (total + count • running + ∑ k ∈ Finset.range count, (k + 1) • b k)) := by
  induction count generalizing running total with
  | zero => simp
  | succ count ih =>
    rw [foldlM_reverse_range_succ, accumulate]
    simp only [Function.comp_apply, h.add_eq, pure_bind, ih, Finset.sum_range_succ]
    congr 3
    · abel
    · simp only [add_nsmul, smul_add, one_nsmul]
      abel

lemma weightedSum_eq (b : ℕ → A) (count : ℕ) :
    weightedSum add zero ((List.range count).map (f ∘ b)) =
      pure (f (∑ k ∈ Finset.range count, (k + 1) • b k)) := by
  rw [weightedSum, ← h.zero_eq, ← List.map_reverse, h.accumulate_fold, pure_bind]
  simp

lemma doubleTimes_eq (count : ℕ) (a : A) :
    doubleTimes double count (f a) = pure (f (2 ^ count • a)) := by
  induction count generalizing a with
  | zero => simp [doubleTimes]
  | succ count ih =>
    rw [doubleTimes, h.double_eq, pure_bind, ih, ← two_nsmul, ← mul_nsmul', pow_succ]

end Represents

lemma sum_buckets (bits shift : ℕ) (terms : List (A × ℕ)) :
    ∑ k ∈ Finset.range (2 ^ bits - 1),
        (k + 1) • (terms.map fun t => if window bits shift t.2 = k + 1 then t.1 else 0).sum =
      (terms.map fun t => window bits shift t.2 • t.1).sum := by
  induction terms with
  | nil => simp
  | cons t terms ih =>
    have hlt : window bits shift t.2 < 2 ^ bits := Nat.mod_lt _ (Nat.two_pow_pos bits)
    have hone : ∑ k ∈ Finset.range (2 ^ bits - 1),
        (k + 1) • (if window bits shift t.2 = k + 1 then t.1 else 0) =
          window bits shift t.2 • t.1 := by
      cases hw : window bits shift t.2 with
      | zero => simp
      | succ j =>
        rw [Finset.sum_eq_single_of_mem j (Finset.mem_range.mpr (by omega))]
        · simp
        · intro k _ hkj
          rw [if_neg (by omega), smul_zero]
    simp only [List.map_cons, List.sum_cons, smul_add, Finset.sum_add_distrib, ih, hone]

lemma window_step (bits j n : ℕ) :
    2 ^ bits * (n / 2 ^ ((j + 1) * bits)) + window bits (j * bits) n = n / 2 ^ (j * bits) := by
  rw [add_mul, one_mul, pow_add, ← Nat.div_div_eq_div_mul]
  exact Nat.div_add_mod _ _

namespace Represents

variable (h : Represents add double zero f)
include h

lemma addWindow_eq (bits shift : ℕ) (terms : List (A × ℕ)) (acc : A) :
    addWindow add double zero bits (represented f terms) (f acc) shift =
      pure (f (2 ^ bits • acc + (terms.map fun t => window bits shift t.2 • t.1).sum)) := by
  rw [addWindow, h.doubleTimes_eq, pure_bind, h.bucketsOf_eq, pure_bind, h.weightedSum_eq,
    pure_bind, h.add_eq, sum_buckets]

lemma windows_fold (bits : ℕ) (terms : List (A × ℕ)) (count : ℕ) :
    ((List.range count).reverse.map (· * bits)).foldlM
        (addWindow add double zero bits (represented f terms))
        (f (terms.map fun t => (t.2 / 2 ^ (count * bits)) • t.1).sum) =
      pure (f (terms.map fun t => t.2 • t.1).sum) := by
  induction count with
  | zero => simp
  | succ count ih =>
    have hstep : 2 ^ bits • (terms.map fun t => (t.2 / 2 ^ ((count + 1) * bits)) • t.1).sum +
        (terms.map fun t => window bits (count * bits) t.2 • t.1).sum =
        (terms.map fun t => (t.2 / 2 ^ (count * bits)) • t.1).sum := by
      rw [List.smul_sum, List.map_map, ← List.sum_map_add]
      congr 1
      apply List.map_congr_left
      intro t _
      rw [Function.comp_apply, ← mul_nsmul', ← add_nsmul, window_step]
    rw [foldlM_reverse_range_succ, h.addWindow_eq, pure_bind, hstep, ih]

lemma bucketSum_eq (terms : List (A × ℕ)) (hlt : ∀ t ∈ terms, t.2 < 2 ^ orderBits) :
    bucketSum add double zero (represented f terms) =
      pure (f (terms.map fun t => t.2 • t.1).sum) := by
  set bits := windowBits (represented f terms).length with hbits
  set count := (orderBits + bits - 1) / bits with hcount
  have hpos : 0 < bits := Nat.lt_of_lt_of_le Nat.two_pos (Nat.le_max_left _ _)
  have hcover : orderBits ≤ count * bits := by
    have hround := Nat.div_add_mod (orderBits + bits - 1) bits
    have hmod := Nat.mod_lt (orderBits + bits - 1) hpos
    rw [← hcount, mul_comm] at hround
    omega
  have hstart : (terms.map fun t => (t.2 / 2 ^ (count * bits)) • t.1).sum = 0 := by
    apply List.sum_eq_zero
    intro a ha
    obtain ⟨t, ht, rfl⟩ := List.mem_map.mp ha
    rw [Nat.div_eq_of_lt ((hlt t ht).trans_le (Nat.pow_le_pow_right Nat.two_pos hcover)), zero_nsmul]
  have hfold := h.windows_fold bits terms count
  rw [hstart, h.zero_eq] at hfold
  exact hfold

end Represents

end VectorCommitment.MultiScalar
