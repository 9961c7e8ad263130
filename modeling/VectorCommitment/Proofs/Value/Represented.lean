import VectorCommitment.Proofs.Curve.MultiScalar
import VectorCommitment.Proofs.Failure.Outcome
import VectorCommitment.Value.MultiScalar

/-! Values that stand for the elements of a monoid: their multiples, and sums of their multiples. -/

namespace VectorCommitment.Value

open MultiScalar

def isWhole : Value → Bool
  | int _ | scalar _ => true
  | _ => false

def whole : Value → ℤ
  | int i => i
  | scalar residue => residue
  | _ => 0

def reducedFactor (s : Value) : ℕ := (s.whole % groupOrder).toNat

lemma reducedFactor_lt (s : Value) : s.reducedFactor < groupOrder :=
  (Int.toNat_lt_of_ne_zero (by decide)).mpr (Int.emod_lt_of_pos _ (by decide))

lemma toInt_of_isWhole {s : Value} (hs : s.isWhole = true) : s.toInt = .ok s.whole := by
  cases s <;> first | rfl | cases hs

lemma factor_of_isWhole {s : Value} (hs : s.isWhole = true) :
    s.factor = .ok (.whole s.reducedFactor) := by
  cases s with
  | int i => rfl
  | scalar residue => exact congrArg (fun n => Except.ok (Factor.whole n)) (by rfl)
  | _ => cases hs

def weightedBy {A : Type} [AddCommMonoid A] (elements : List A) (scalars : List Value) : A :=
  (List.zipWith (fun a s => reducedFactor s • a) elements scalars).sum

lemma weightedBy_cons {A : Type} [AddCommMonoid A] (a : A) (elements : List A) (s : Value)
    (scalars : List Value) :
    weightedBy (a :: elements) (s :: scalars) = s.reducedFactor • a + weightedBy elements scalars :=
  rfl

lemma groupOrder_lt_two_pow : groupOrder < 2 ^ orderBits := by decide

section

variable {A : Type} [AddCommMonoid A] {f : A → Value}
  (h : Represents addPoints doublePoint null f) (hf : Function.Injective f)
include h

lemma multipleWithin_represented {budget n : ℕ} (hn : n ≤ budget) (a : A) :
    multipleWithin budget n (f a) = .ok (f (n • a)) := by
  induction budget generalizing n a with
  | zero =>
    obtain rfl : n = 0 := by omega
    rw [zero_nsmul, h.zero_eq]
    rfl
  | succ budget ih =>
    rw [multipleWithin]
    split
    · next hzero => rw [hzero, zero_nsmul, h.zero_eq]
    · split
      · next hone => rw [hone, one_nsmul]
      · have hhalf : n / 2 ≤ budget := by omega
        simp only [h.double_eq, pure_bind, ih hhalf, ← two_nsmul, ← mul_nsmul']
        change (if n % 2 = 1 then addPoints (f ((n / 2 * 2) • a)) (f a) else _) = _
        split
        · have hodd : n = n / 2 * 2 + 1 := by omega
          rw [h.add_eq]
          conv_rhs => rw [hodd, add_nsmul, one_nsmul]
          rfl
        · have heven : n = n / 2 * 2 := by omega
          conv_rhs => rw [heven]
          rfl

lemma multiplePoint_represented (n : ℕ) (a : A) : multiplePoint n (f a) = .ok (f (n • a)) :=
  multipleWithin_represented h le_rfl a

lemma sumOneByOne_represented (terms : List (A × ℕ)) :
    sumOneByOne (represented f terms) = .ok (f (terms.map fun t => t.2 • t.1).sum) := by
  have hfold : ∀ acc : A,
      (represented f terms).foldlM
        (fun acc term => do addPoints acc (← multiplePoint term.2 term.1)) (f acc) =
      .ok (f (acc + (terms.map fun t => t.2 • t.1).sum)) := by
    induction terms with
    | nil =>
      intro acc
      simp [represented, pure, Except.pure]
    | cons t terms ih =>
      intro acc
      have hstep : (do addPoints (f acc) (← multiplePoint t.2 (f t.1))) =
          Except.ok (ε := Failure) (f (acc + t.2 • t.1)) := by
        rw [multiplePoint_represented h]
        exact h.add_eq _ _
      rw [represented, List.map_cons, List.foldlM_cons, hstep, List.map_cons, List.sum_cons,
        ← add_assoc]
      exact ih _
  rw [sumOneByOne, ← h.zero_eq, hfold, zero_add]

include hf

lemma eq_null_iff_represented (a : A) : f a = null ↔ a = 0 := by
  rw [← h.zero_eq]
  exact hf.eq_iff

lemma mulPoint_represented {s : Value} (hs : s.isWhole = true) (a : A) :
    (f a).mulPoint s = .ok (f (s.reducedFactor • a)) := by
  unfold mulPoint
  split
  · next hnull =>
    rw [(eq_null_iff_represented h hf a).mp hnull, smul_zero, h.zero_eq]
  · rw [factor_of_isWhole hs]
    exact multiplePoint_represented h _ a

lemma exists_contributing {scalars : List Value} (hs : ∀ s ∈ scalars, s.isWhole = true)
    (elements : List A) :
    ∃ terms : List (A × ℕ),
      contributing (elements.map f) scalars = .ok (represented f terms) ∧
      (∀ t ∈ terms, t.2 < groupOrder) ∧
      (terms.map fun t => t.2 • t.1).sum = weightedBy elements scalars := by
  induction elements generalizing scalars with
  | nil => exact ⟨[], rfl, nofun, rfl⟩
  | cons a elements ih =>
    cases scalars with
    | nil => exact ⟨[], rfl, nofun, rfl⟩
    | cons s scalars =>
      obtain ⟨terms, hterms, hlt, hsum⟩ := ih fun s hmem => hs s (List.mem_cons_of_mem _ hmem)
      have hint := toInt_of_isWhole (hs s List.mem_cons_self)
      rw [List.map_cons, contributing, hint, Outcome.ok_bind, hterms, Outcome.ok_bind,
        weightedBy_cons, ← hsum]
      -- the null point and a factor of zero are left out, and each would add zero
      split
      · next hnull =>
        refine ⟨terms, rfl, hlt, ?_⟩
        rw [(eq_null_iff_represented h hf a).mp hnull, smul_zero, zero_add]
      · by_cases hzero : s.reducedFactor = 0
        · refine ⟨terms, congrArg _ (if_pos hzero), hlt, ?_⟩
          rw [hzero, zero_smul, zero_add]
        · refine ⟨(a, s.reducedFactor) :: terms, congrArg _ (if_neg hzero), ?_, rfl⟩
          intro t ht
          rcases List.mem_cons.mp ht with rfl | ht
          · exact s.reducedFactor_lt
          · exact hlt t ht

lemma sumOfMultiples_represented {elements : List A} {scalars : List Value}
    (hs : ∀ s ∈ scalars, s.isWhole = true) (hlength : elements.length = scalars.length) :
    sumOfMultiples (elements.map f) scalars = .ok (f (weightedBy elements scalars)) := by
  obtain ⟨terms, hterms, hlt, hsum⟩ := exists_contributing h hf hs elements
  rw [sumOfMultiples, if_neg (by simpa using hlength), hterms, ← hsum]
  change (if _ then _ else _) = _
  split
  · exact sumOneByOne_represented h terms
  · exact h.bucketSum_eq terms fun t ht => (hlt t ht).trans groupOrder_lt_two_pow

end

end VectorCommitment.Value
