import VectorCommitment.Proofs.Value.Points

namespace VectorCommitment.Value

open MultiScalar Point

def plainSum (points scalars : List Value) : Outcome Value :=
  (points.zip scalars).foldlM (fun acc term => do addPoints acc (← term.1.mulPoint term.2)) null

section

variable {A : Type} [AddCommMonoid A] {f : A → Value}
  (h : Represents addPoints doublePoint null f) (hf : Function.Injective f)
include h hf

lemma plainSum_represented {scalars : List Value} (hs : ∀ s ∈ scalars, s.isWhole = true)
    (elements : List A) :
    plainSum (elements.map f) scalars = .ok (f (weightedBy elements scalars)) := by
  have hfold : ∀ acc : A, ((elements.map f).zip scalars).foldlM
      (fun acc term => do addPoints acc (← term.1.mulPoint term.2)) (f acc) =
        .ok (f (acc + weightedBy elements scalars)) := by
    induction elements generalizing scalars with
    | nil =>
      intro acc
      simp [weightedBy, pure, Except.pure]
    | cons a elements ih =>
      intro acc
      cases scalars with
      | nil => simp [weightedBy, pure, Except.pure]
      | cons s scalars =>
        have hstep : (do addPoints (f acc) (← (f a).mulPoint s)) =
            Except.ok (ε := Failure) (f (acc + s.reducedFactor • a)) := by
          rw [mulPoint_represented h hf (hs s List.mem_cons_self)]
          exact h.add_eq _ _
        rw [List.map_cons, List.zip_cons_cons, List.foldlM_cons, hstep, weightedBy_cons, ← add_assoc]
        exact ih (fun s hmem => hs s (List.mem_cons_of_mem _ hmem)) _
  rw [plainSum, ← h.zero_eq, hfold, zero_add]

lemma sumOfMultiples_eq_plainSum {points scalars : List Value}
    (hpoints : ∀ p ∈ points, ∃ a, f a = p) (hs : ∀ s ∈ scalars, s.isWhole = true)
    (hlength : points.length = scalars.length) :
    ∃ a, plainSum points scalars = .ok (f a) ∧ sumOfMultiples points scalars = .ok (f a) := by
  obtain ⟨elements, rfl⟩ : ∃ elements : List A, elements.map f = points := by
    rw [← Set.mem_range, Set.range_list_map]
    exact hpoints
  rw [List.length_map] at hlength
  exact ⟨_, plainSum_represented h hf hs elements, sumOfMultiples_represented h hf hs hlength⟩

end

/-- The sum of the multiples of points of one curve is the plain sum, and there is none for lists of
different lengths. -/
theorem multiScalar_eq_plainSum {points scalars : List Value}
    (hpoints : (∀ p ∈ points, p.isG1Point = true) ∨ ∀ p ∈ points, p.isG2Point = true)
    (hscalars : ∀ s ∈ scalars, s.isWhole = true) :
    (points.length = scalars.length →
      ∃ sum, plainSum points scalars = .ok sum ∧
        multiScalar (.list points) (.list scalars) = .ok sum) ∧
    (points.length ≠ scalars.length →
      multiScalar (.list points) (.list scalars) =
        .error (.fault (.lengthsDiffer points.length scalars.length)) ∧
      (Fault.lengthsDiffer points.length scalars.length).name = "ValueError") := by
  have hrows : multiScalar (.list points) (.list scalars) = sumOfMultiples points scalars := rfl
  rw [hrows]
  constructor
  · intro hlength
    rcases hpoints with hcurve | htwist
    · obtain ⟨P, hplain, hsum⟩ := sumOfMultiples_eq_plainSum represents_ofCurve ofCurve_injective
        (fun p hp => exists_ofCurve (hcurve p hp)) hscalars hlength
      exact ⟨_, hplain, hsum⟩
    · obtain ⟨Q, hplain, hsum⟩ := sumOfMultiples_eq_plainSum represents_ofTwist ofTwist_injective
        (fun p hp => exists_ofTwist (htwist p hp)) hscalars hlength
      exact ⟨_, hplain, hsum⟩
  · intro hlength
    refine ⟨?_, rfl⟩
    rw [sumOfMultiples, if_pos hlength]
    rfl

theorem multiScalar_eq_plainSum_opposite_points :
    (∃ sum, plainSum
        [ofG1 G1.generator, .null, ofG1 (-G1.generator), ofG1 G1.generator]
        [.int (-1), .scalar 5, .int groupOrder, .scalar 7] = .ok sum ∧
      multiScalar (.list [ofG1 G1.generator, .null, ofG1 (-G1.generator), ofG1 G1.generator])
        (.list [.int (-1), .scalar 5, .int groupOrder, .scalar 7]) = .ok sum) ∧
    multiScalar (.list [ofG2 G2.generator, ofG2 G2.generator]) (.list [.int 3]) =
      .error (.fault (.lengthsDiffer 2 1)) :=
  ⟨(multiScalar_eq_plainSum (Or.inl (by decide)) (by decide)).1 rfl,
    ((multiScalar_eq_plainSum (Or.inr (by decide +kernel)) (by decide)).2 (by decide)).1⟩

end VectorCommitment.Value
