import VectorCommitment.Proofs.Curve.Pairing
import VectorCommitment.Proofs.Value.Points
import VectorCommitment.Value.Pairing

namespace VectorCommitment.Value

open Point

def ofTwistResidue (y : ZMod groupOrder) : Value := ofG2 (G2.generator.multiple y)

lemma ofTwistResidue_one : ofTwistResidue 1 = ofG2 G2.generator := by
  rw [ofTwistResidue, multiple_one]

lemma ofG2_nsmul_generator (n : ℕ) : ofG2 (n • G2.generator) = ofTwistResidue n := by
  rw [ofTwistResidue, multiple_natCast]

lemma ofTwistResidue_eq_null_iff (y : ZMod groupOrder) : ofTwistResidue y = null ↔ y = 0 := by
  rw [← multiple_eq_infinity_iff (g := G2.generator), ofTwistResidue]
  cases G2.generator.multiple y with
  | infinity => exact ⟨fun _ => rfl, fun _ => rfl⟩
  | affine x₁ y₁ => exact ⟨nofun, nofun⟩

lemma exists_timesPairing {e : PairingMap} (h : e.IsTotal) (acc : Target) {p : Value}
    (hp : p.isG1Point = true) (b : ℕ) :
    ∃ t, timesPairing e acc p (ofG2 (b • G2.generator)) = .ok t := by
  obtain ⟨p, hon, rfl⟩ := exists_of_isG1Point hp
  obtain ⟨t, ht⟩ := h b p hon
  unfold timesPairing
  split
  · exact ⟨_, rfl⟩
  · exact ⟨_, rfl⟩
  · rw [pairing, toG1?_ofG1, toG2?_ofG2]
    simp only [ht, ofPairing]
    exact ⟨_, rfl⟩

lemma exists_pairingProduct {e : PairingMap} (h : e.IsTotal) {pairs : List (Value × Value)}
    (hpairs : ∀ pair ∈ pairs, pair.1.isG1Point = true ∧
      ∃ b : ℕ, pair.2 = ofG2 (b • G2.generator)) :
    ∃ t, pairingProduct e pairs = .ok t := by
  have hfold : ∀ acc, ∃ t,
      pairs.foldlM (fun acc pair => timesPairing e acc pair.1 pair.2) acc = .ok t := by
    induction pairs with
    | nil => exact fun acc => ⟨acc, rfl⟩
    | cons pair pairs ih =>
      intro acc
      obtain ⟨⟨hp, b, hb⟩, hpairs⟩ := List.forall_mem_cons.mp hpairs
      obtain ⟨t, ht⟩ := exists_timesPairing h acc hp b
      rw [List.foldlM_cons, hb, ht]
      exact ih hpairs t
  exact hfold 1

variable {e : PairingMap} {base : Target} (h : e.IsBilinear base)
include h

lemma pairing_multiples (x y : ZMod groupOrder) :
    pairing e (ofTwistResidue y) (ofResidue x) = .ok (base.power (x * y)) := by
  rw [pairing, ofTwistResidue, ofResidue, toG1?_ofG1, toG2?_ofG2]
  simp only [h.pair_multiple, ofPairing]

lemma timesPairing_multiples (acc : Target) (x y : ZMod groupOrder) :
    timesPairing e acc (ofResidue x) (ofTwistResidue y) = .ok (acc * base.power (x * y)) := by
  unfold timesPairing
  split
  · next hx => rw [(ofResidue_eq_null_iff x).mp hx, zero_mul, Target.power_zero, mul_one]
  · next hy _ => rw [(ofTwistResidue_eq_null_iff y).mp hy, mul_zero, Target.power_zero, mul_one]
  · rw [pairing_multiples h]
    rfl

lemma pairingProduct_multiples (x y z : ZMod groupOrder) :
    pairingProduct e [(ofResidue x, ofTwistResidue y), (ofResidue z, ofG2 G2.generator)] =
      .ok (base.power (x * y + z)) := by
  rw [← ofTwistResidue_one, pairingProduct, List.foldlM_cons, timesPairing_multiples h, one_mul,
    Target.power_add h.base_pow_groupOrder]
  change timesPairing e _ _ _ >>= _ = _
  rw [timesPairing_multiples h, mul_one]
  rfl

lemma pairingProductOf_multiple (x : ZMod groupOrder) :
    pairingProductOf e (list [tuple [ofResidue x, ofG2 G2.generator]]) = .ok (base.power x) := by
  change (timesPairing e 1 (ofResidue x) (ofG2 G2.generator) >>= _) = _
  rw [← ofTwistResidue_one, timesPairing_multiples h, one_mul, mul_one]
  rfl

end VectorCommitment.Value
