import VectorCommitment.Proofs.Curve.Groups
import VectorCommitment.Proofs.Value.Represented

namespace VectorCommitment.Value

open MultiScalar Point

lemma ofG1_injective : Function.Injective ofG1 := by
  intro p q h
  have hpoints := congrArg toG1? h
  rw [toG1?_ofG1, toG1?_ofG1] at hpoints
  exact Option.some.inj hpoints

lemma ofG2_injective : Function.Injective ofG2 := by
  intro p q h
  have hpoints := congrArg toG2? h
  rw [toG2?_ofG2, toG2?_ofG2] at hpoints
  exact Option.some.inj hpoints

lemma ofG1_infinity : ofG1 .infinity = null := rfl

lemma addPoints_ofG1 (p q : G1) : addPoints (ofG1 p) (ofG1 q) = .ok (ofG1 (p + q)) := by
  cases p with
  | infinity => rw [infinity_add, ofG1_infinity, addPoints]
  | affine x₁ y₁ =>
    cases q with
    | infinity => rw [add_infinity]; rfl
    | affine x₂ y₂ => rfl

lemma addPoints_ofG2 (p q : G2) : addPoints (ofG2 p) (ofG2 q) = .ok (ofG2 (p + q)) := by
  cases p with
  | infinity => rw [infinity_add]; rfl
  | affine x₁ y₁ =>
    cases q with
    | infinity => rw [add_infinity]; rfl
    | affine x₂ y₂ => rfl

lemma doublePoint_ofG1 (p : G1) : doublePoint (ofG1 p) = .ok (ofG1 p.double) := by
  rw [doublePoint, toG1?_ofG1]

lemma doublePoint_ofG2 (p : G2) : doublePoint (ofG2 p) = .ok (ofG2 p.double) := by
  cases p <;> rfl

lemma negPoint_ofG1 (p : G1) : negPoint (ofG1 p) = .ok (ofG1 (-p)) := by
  cases p <;> rfl

def ofCurve (P : (curve (3 : Fp)).Point) : Value := ofG1 (ofAffine P)

def ofTwist (Q : (curve twistConstant).Point) : Value := ofG2 (ofAffine Q)

lemma ofCurve_injective : Function.Injective ofCurve := ofG1_injective.comp ofAffine_injective

lemma ofTwist_injective : Function.Injective ofTwist := ofG2_injective.comp ofAffine_injective

lemma represents_ofCurve : Represents addPoints doublePoint null ofCurve where
  zero_eq := rfl
  add_eq P Q := by
    rw [ofCurve, ofCurve, addPoints_ofG1, ← ofAffine_add]
    rfl
  double_eq P := by
    rw [ofCurve, doublePoint_ofG1, ← ofAffine_double]
    rfl

lemma represents_ofTwist : Represents addPoints doublePoint null ofTwist where
  zero_eq := rfl
  add_eq P Q := by
    rw [ofTwist, ofTwist, addPoints_ofG2, ← ofAffine_add]
    rfl
  double_eq P := by
    rw [ofTwist, doublePoint_ofG2, ← ofAffine_double]
    rfl

lemma exists_of_isG1Point {v : Value} (hv : v.isG1Point = true) :
    ∃ p : G1, p.isOnCurve = true ∧ ofG1 p = v := by
  obtain ⟨p, hp⟩ := Option.isSome_iff_exists.mp hv
  obtain ⟨hpoint, hon⟩ := Option.filter_eq_some_iff.mp hp
  refine ⟨p, hon, ?_⟩
  unfold toG1? at hpoint
  split at hpoint
  · rw [← Option.some.inj hpoint]
    rfl
  · rw [← Option.some.inj hpoint]
    rfl
  · cases hpoint

lemma exists_of_isG2Point {v : Value} (hv : v.isG2Point = true) :
    ∃ q : G2, q.isOnTwist = true ∧ ofG2 q = v := by
  obtain ⟨q, hpoint, hon⟩ := (Option.any_eq_true _ _).mp hv
  refine ⟨q, hon, ?_⟩
  unfold toG2? at hpoint
  split at hpoint
  · rw [← Option.some.inj hpoint]
    rfl
  · rw [← Option.some.inj hpoint]
    rfl
  · cases hpoint

lemma exists_ofCurve {v : Value} (hv : v.isG1Point = true) : ∃ P, ofCurve P = v := by
  obtain ⟨p, hon, rfl⟩ := exists_of_isG1Point hv
  obtain ⟨P, rfl⟩ := (isOn_iff p).mp hon
  exact ⟨P, rfl⟩

lemma exists_ofTwist {v : Value} (hv : v.isG2Point = true) : ∃ Q, ofTwist Q = v := by
  obtain ⟨q, hon, rfl⟩ := exists_of_isG2Point hv
  obtain ⟨Q, rfl⟩ := (isOn_iff q).mp hon
  exact ⟨Q, rfl⟩

def ofResidue (x : ZMod groupOrder) : Value := ofG1 (G1.generator.multiple x)

lemma ofG1_nsmul_generator (n : ℕ) : ofG1 (n • G1.generator) = ofResidue n := by
  rw [ofResidue, multiple_natCast]

lemma ofResidue_zero : ofResidue 0 = null := by
  rw [ofResidue, multiple_zero, ofG1_infinity]

lemma ofResidue_injective : Function.Injective ofResidue :=
  ofG1_injective.comp multiple_injective

lemma ofResidue_eq_null_iff (x : ZMod groupOrder) : ofResidue x = null ↔ x = 0 := by
  rw [← ofResidue_zero]
  exact ofResidue_injective.eq_iff

lemma addPoints_ofResidue (x y : ZMod groupOrder) :
    addPoints (ofResidue x) (ofResidue y) = .ok (ofResidue (x + y)) := by
  rw [ofResidue, ofResidue, addPoints_ofG1, ofResidue, multiple_add]

lemma negPoint_ofResidue (x : ZMod groupOrder) : negPoint (ofResidue x) = .ok (ofResidue (-x)) := by
  rw [ofResidue, negPoint_ofG1, ofResidue, multiple_neg]

lemma represents_ofResidue : Represents addPoints doublePoint null ofResidue where
  zero_eq := ofResidue_zero
  add_eq := addPoints_ofResidue
  double_eq x := by
    rw [ofResidue, doublePoint_ofG1, ofResidue, multiple_double]
    rfl

lemma cast_reducedFactor (s : Value) : (s.reducedFactor : ZMod groupOrder) = s.whole := by
  rw [reducedFactor, ← Int.cast_natCast, Int.toNat_of_nonneg (Int.emod_nonneg _ (by decide)),
    ZMod.intCast_mod]

lemma mulPoint_whole {s : Value} (hs : s.isWhole = true) (x : ZMod groupOrder) :
    (ofResidue x).mulPoint s = .ok (ofResidue (s.whole * x)) := by
  rw [mulPoint_represented represents_ofResidue ofResidue_injective hs, nsmul_eq_mul,
    cast_reducedFactor]

lemma mulPoint_ofResidue (x : ZMod groupOrder) (n : ℕ) :
    (ofResidue x).mulPoint (.scalar n) = .ok (ofResidue (n * x)) := by
  rw [mulPoint_whole rfl, whole, Int.cast_natCast]

lemma isG1Point_ofG1 (p : G1) : (ofG1 p).isG1Point = p.isOnCurve := by
  rw [isG1Point, curvePoint?, toG1?_ofG1, Option.filter]
  cases p.isOnCurve <;> rfl

lemma isG1Point_ofResidue (x : ZMod groupOrder) : (ofResidue x).isG1Point = true := by
  rw [ofResidue, isG1Point_ofG1]
  exact isOn_multiple x

lemma isG1Point_iff (v : Value) : v.isG1Point = true ↔ ∃ x, ofResidue x = v := by
  constructor
  · intro hv
    obtain ⟨p, hon, rfl⟩ := exists_of_isG1Point hv
    obtain ⟨x, rfl⟩ := G1.exists_multiple hon
    exact ⟨x, rfl⟩
  · rintro ⟨x, rfl⟩
    exact isG1Point_ofResidue x

lemma ofG1_generator : ofG1 G1.generator = ofResidue 1 := by
  rw [ofResidue, multiple_one]

lemma eq_val_of_intCast_eq {k : ℤ} {x : ZMod groupOrder} (hnonneg : 0 ≤ k) (hlt : k < groupOrder)
    (hk : (k : ZMod groupOrder) = x) : k = x.val := by
  rw [← hk, ZMod.val_intCast, Int.emod_eq_of_lt hnonneg hlt]

/-- A point of the curve is one multiple of the generator, and its multiples by integers are those
of the group. -/
theorem curve_point_multiples {p : Value} (hp : p.isG1Point = true) :
    (∃! k : ℤ, 0 ≤ k ∧ k < groupOrder ∧ (ofG1 G1.generator).mulPoint (.int k) = .ok p) ∧
    p.mulPoint (.int groupOrder) = .ok null ∧
    ∀ a b : ℤ, ∃ first second sum product opposite : Value,
      p.mulPoint (.int a) = .ok first ∧ p.mulPoint (.int b) = .ok second ∧
      p.mulPoint (.int (a + b)) = .ok sum ∧ first.addPoints second = .ok sum ∧
      p.mulPoint (.int (a * b)) = .ok product ∧ first.mulPoint (.int b) = .ok product ∧
      p.mulPoint (.int (-a)) = .ok opposite ∧ first.negPoint = .ok opposite ∧
      ∀ q ∈ [first, second, sum, product, opposite], q.isG1Point = true := by
  obtain ⟨x, rfl⟩ := (isG1Point_iff p).mp hp
  have hmultiple : ∀ (y : ZMod groupOrder) (i : ℤ),
      (ofResidue y).mulPoint (.int i) = .ok (ofResidue (i * y)) := fun y i => mulPoint_whole rfl y
  refine ⟨⟨x.val, ⟨Int.natCast_nonneg _, Int.ofNat_lt.mpr x.val_lt, ?_⟩, ?_⟩, ?_, ?_⟩
  · rw [ofG1_generator, hmultiple, mul_one, Int.cast_natCast, ZMod.natCast_rightInverse]
  · rintro k ⟨hnonneg, hlt, hk⟩
    rw [ofG1_generator, hmultiple, mul_one] at hk
    exact eq_val_of_intCast_eq hnonneg hlt (ofResidue_injective (Except.ok.inj hk))
  · rw [hmultiple, Int.cast_natCast, ZMod.natCast_self, zero_mul, ofResidue_zero]
  · intro a b
    refine ⟨ofResidue (a * x), ofResidue (b * x), ofResidue ((a + b : ℤ) * x),
      ofResidue ((a * b : ℤ) * x), ofResidue ((-a : ℤ) * x), hmultiple _ _, hmultiple _ _,
      hmultiple _ _, ?_, hmultiple _ _, ?_, hmultiple _ _, ?_, ?_⟩
    · rw [addPoints_ofResidue, Int.cast_add, add_mul]
    · rw [hmultiple, Int.cast_mul, ← mul_assoc, mul_comm (b : ZMod groupOrder)]
    · rw [negPoint_ofResidue, Int.cast_neg, neg_mul]
    · intro q hq
      simp only [List.mem_cons, List.not_mem_nil, or_false] at hq
      rcases hq with rfl | rfl | rfl | rfl | rfl <;> exact isG1Point_ofResidue _

theorem curve_point_multiples_opposite_generator :
    (∃! k : ℤ, 0 ≤ k ∧ k < groupOrder ∧
      (ofG1 G1.generator).mulPoint (.int k) = .ok (ofG1 (-G1.generator))) ∧
    (ofG1 (-G1.generator)).mulPoint (.int groupOrder) = .ok null :=
  have h := curve_point_multiples (p := ofG1 (-G1.generator)) (by decide)
  ⟨h.1, h.2.1⟩

def innerProduct (xs : List (ZMod groupOrder)) (units : List ℕ) : ZMod groupOrder :=
  (List.zipWith (fun x unit => (unit : ZMod groupOrder) * x) xs units).sum

lemma weightedBy_units (xs : List (ZMod groupOrder)) (units : List ℕ) :
    weightedBy xs (units.map scalar) = innerProduct xs units := by
  induction xs generalizing units with
  | nil => rfl
  | cons x xs ih =>
    cases units with
    | nil => rfl
    | cons unit units =>
      rw [List.map_cons, weightedBy_cons, ih, nsmul_eq_mul, cast_reducedFactor, whole,
        Int.cast_natCast]
      rfl

lemma sumOfMultiples_ofResidue {xs : List (ZMod groupOrder)} {units : List ℕ}
    (hlength : xs.length = units.length) :
    sumOfMultiples (xs.map ofResidue) (units.map scalar) =
      .ok (ofResidue (innerProduct xs units)) := by
  have hunits : ∀ s ∈ units.map scalar, s.isWhole = true := by
    intro s hs
    obtain ⟨unit, -, rfl⟩ := List.mem_map.mp hs
    rfl
  rw [← weightedBy_units]
  exact sumOfMultiples_represented represents_ofResidue ofResidue_injective hunits
    (by rw [hlength, List.length_map])

end VectorCommitment.Value
