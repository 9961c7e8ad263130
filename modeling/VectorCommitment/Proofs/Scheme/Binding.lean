import VectorCommitment.Proofs.Scheme.Verification
import VectorCommitment.Value.Arithmetic

namespace VectorCommitment

open Value

namespace Value

lemma toScalar_eq {v : Value} {z : ZMod groupOrder} (hv : v.residueClass? = some z) :
    ∃ residue : ℕ, v.toScalar = .ok (scalar residue) ∧ (residue : ZMod groupOrder) = z := by
  unfold residueClass? at hv
  split at hv
  · next i =>
    refine ⟨(i % groupOrder).toNat, rfl, ?_⟩
    rw [← Option.some.inj hv, cast_toNat_emod]
  · next residue => exact ⟨residue, rfl, Option.some.inj hv⟩
  · cases hv

lemma sub_scalar (m n : ℕ) : (scalar m).sub (scalar n) =
    .ok (scalar (((m : ℤ) - n) % groupOrder).toNat) := rfl

lemma div_scalar (m n : ℕ) : (scalar m).div (scalar n) =
    .ok (scalar (((m : ℤ) * inverseMod groupOrder ((n : ℤ) % groupOrder).toNat) %
      groupOrder).toNat) := rfl

end Value

def extractedPoint (value₁ witness₁ value₂ witness₂ : Value) : Outcome Value := do
  let point ← addPoints witness₁ (← witness₂.negPoint)
  let difference ← (← value₂.toScalar).sub (← value₁.toScalar)
  point.mulPoint (← (Value.scalar 1).div difference)

lemma extractedPoint_eq {value₁ value₂ : Value} {z₁ z₂ : ZMod groupOrder}
    (hvalue₁ : value₁.residueClass? = some z₁) (hvalue₂ : value₂.residueClass? = some z₂)
    (w₁ w₂ : ZMod groupOrder) :
    extractedPoint value₁ (ofResidue w₁) value₂ (ofResidue w₂) =
      .ok (ofResidue ((w₁ - w₂) / (z₂ - z₁))) := by
  obtain ⟨m, hm, rfl⟩ := toScalar_eq hvalue₁
  obtain ⟨n, hn, rfl⟩ := toScalar_eq hvalue₂
  simp only [extractedPoint, negPoint_ofResidue, addPoints_ofResidue, hm, hn, sub_scalar,
    div_scalar, mulPoint_ofResidue, bind, Except.bind]
  rw [cast_toNat_emod, Int.cast_mul, Nat.cast_one, Int.cast_one, one_mul, Int.cast_natCast,
    cast_inverseMod, cast_toNat_emod, Int.cast_natCast, cast_toNat_emod, Int.cast_sub,
    Int.cast_natCast, Int.cast_natCast, ← sub_eq_add_neg, mul_comm, div_eq_mul_inv]

lemma power_combination {base target : Target} (hbase : base ^ groupOrder = 1)
    {s₁ s₂ : ZMod groupOrder} (h₁ : base.power s₁ = target) (h₂ : base.power s₂ = target)
    (k : ZMod groupOrder) : base.power (s₁ + (s₂ - s₁) * k) = target := by
  have hdifference : base.power (s₂ - s₁) = 1 := by
    rw [sub_eq_add_neg, Target.power_add hbase, h₂, ← h₁, ← Target.power_add hbase, add_neg_cancel,
      Target.power_zero]
  rw [Target.power_add hbase, Target.power_mul hbase, hdifference, h₁, Target.power, one_pow,
    mul_one]

lemma exists_of_mem_verifierValues {α capacity : ℕ} {entry : Value}
    (hentry : entry ∈ Setup.verifierValues α capacity) :
    ∃ y : ℕ, entry = .ofG2 (y • G2.generator) := by
  obtain ⟨k, -, rfl⟩ := List.mem_map.mp hentry
  exact ⟨α ^ (k + 1), by rw [ofG2_nsmul_generator, Nat.cast_pow]⟩

/-- Openings of one position to two values reveal a point that is paired to the target, which for
generated parameters is the entry that is kept back. -/
theorem accepted_openings_extract {e : PairingMap} {base target : Target} (h : e.IsBilinear base)
    {capacity : ℕ} {entries : List Value}
    (hentries : ∀ entry ∈ entries, ∃ y : ℕ, entry = .ofG2 (y • G2.generator))
    {commitment position value₁ witness₁ value₂ witness₂ : Value} {z₁ z₂ : ZMod groupOrder}
    (hvalue₁ : value₁.residueClass? = some z₁) (hvalue₂ : value₂.residueClass? = some z₂)
    (hz₁ : z₁ ≠ 0) (hz₂ : z₂ ≠ 0) (hne : z₁ ≠ z₂)
    (haccepted₁ : verify e commitment (.verifier capacity entries (.target target)) value₁ position
      witness₁ = .ok true)
    (haccepted₂ : verify e commitment (.verifier capacity entries (.target target)) value₂ position
      witness₂ = .ok true) :
    (∃ point, extractedPoint value₁ witness₁ value₂ witness₂ = .ok point ∧
      pairingProductOf e (.list [.tuple [point, .ofG2 G2.generator]]) = .ok target ∧
      (orderOf base = groupOrder → ∀ (drawn α : ℕ) (seed n prover : Value),
        Setup.trapdoor drawn seed = .ok α →
        generate e drawn n seed = .ok (prover, .verifier capacity entries (.target target)) →
        point = .ofG1 (α ^ (capacity + 1) • G1.generator))) ∧
    (target ≠ 1 → witness₁ ≠ witness₂) := by
  obtain ⟨c, w₁, k, entry, rfl, rfl, rfl, hk, hentry⟩ := exists_of_accepted haccepted₁
  obtain ⟨-, w₂, -, -, -, rfl, -, -, -⟩ := exists_of_accepted haccepted₂
  obtain ⟨y, rfl⟩ := hentries entry (List.mem_of_getElem? hentry)
  rw [ofG2_nsmul_generator] at hentry
  rw [verify_eq h hk hentry hvalue₁ hz₁] at haccepted₁
  rw [verify_eq h hk hentry hvalue₂ hz₂] at haccepted₂
  have hpower₁ := of_decide_eq_true (Except.ok.inj haccepted₁)
  have hpower₂ := of_decide_eq_true (Except.ok.inj haccepted₂)
  have hdifference : z₂ - z₁ ≠ 0 := sub_ne_zero.mpr hne.symm
  have hexponent : (c * y - w₁) / z₁ + ((c * y - w₂) / z₂ - (c * y - w₁) / z₁) * (z₂ / (z₂ - z₁)) =
      (w₁ - w₂) / (z₂ - z₁) := by
    field_simp
    ring
  have hpower : base.power ((w₁ - w₂) / (z₂ - z₁)) = target := by
    rw [← hexponent]
    exact power_combination h.base_pow_groupOrder hpower₁ hpower₂ _
  refine ⟨⟨_, extractedPoint_eq hvalue₁ hvalue₂ w₁ w₂, ?_, ?_⟩, ?_⟩
  · rw [pairingProductOf_multiple h, hpower]
  · intro horder drawn α seed n prover hα hgenerated
    obtain ⟨α', n, -, -, hα', -, hverifier⟩ := exists_of_generate h hgenerated
    obtain rfl := Except.ok.inj (hα.symm.trans hα')
    obtain ⟨rfl, -, htarget⟩ := Value.verifier.inj hverifier
    rw [Value.target.inj htarget] at hpower
    rw [Target.power_injective horder hpower, ofG1_nsmul_generator, Nat.cast_pow]
  · intro htarget hwitness
    apply htarget
    rw [← hpower, ofResidue_injective hwitness, sub_self, zero_div, Target.power_zero]

theorem accepted_openings_extract_two_values :
    verify logarithmPairing (.ofG1 (5 • G1.generator)) (Setup.verifierRecord generatorTarget 1 1)
      (.int 1) (.int 0) (.ofG1 (4 • G1.generator)) = .ok true ∧
    verify logarithmPairing (.ofG1 (5 • G1.generator)) (Setup.verifierRecord generatorTarget 1 1)
      (.int 2) (.int 0) (.ofG1 (3 • G1.generator)) = .ok true ∧
    extractedPoint (.int 1) (.ofG1 (4 • G1.generator)) (.int 2) (.ofG1 (3 • G1.generator)) =
      .ok (.ofG1 (1 ^ 2 • G1.generator)) := by
  have hone : ((1 : ℤ) : ZMod groupOrder) ≠ 0 := by decide +kernel
  have htwo : ((2 : ℤ) : ZMod groupOrder) ≠ 0 := by decide +kernel
  have haccepted : ∀ (value : Value) (z : ZMod groupOrder) (w : ℕ), value.residueClass? = some z →
      z ≠ 0 → (5 - w : ZMod groupOrder) = z →
      verify logarithmPairing (.ofG1 (5 • G1.generator)) (Setup.verifierRecord generatorTarget 1 1)
        value (.int 0) (.ofG1 (w • G1.generator)) = .ok true := by
    intro value z w hvalue hz hw
    have hexponent : (((5 : ℕ) : ZMod groupOrder) * ((1 : ℕ) : ZMod groupOrder) ^ (1 - 0) - w) / z =
        ((1 : ℕ) : ZMod groupOrder) ^ (1 + 1) := by
      rw [Nat.cast_one, one_pow, one_pow, mul_one, Nat.cast_ofNat, hw, div_self hz]
    rw [ofG1_nsmul_generator, ofG1_nsmul_generator]
    refine (verify_eq logarithmPairing_isBilinear Nat.zero_lt_one
      (Setup.getElem?_verifierValues 1 Nat.zero_lt_one) hvalue hz _ _).trans ?_
    rw [hexponent, decide_eq_true rfl]
  have hfirst := haccepted (.int 1) _ 4 rfl hone (by decide +kernel)
  have hsecond := haccepted (.int 2) _ 3 rfl htwo (by decide +kernel)
  obtain ⟨⟨point, hpoint, -, hkept⟩, -⟩ := accepted_openings_extract logarithmPairing_isBilinear
    (fun _ => exists_of_mem_verifierValues) rfl rfl hone htwo (by decide +kernel) hfirst hsecond
  have hgenerated := generate_eq logarithmPairing_isBilinear
    (show (Value.int 1).toInt = .ok ((1 : ℕ) : ℤ) from rfl) le_rfl
    (show Setup.trapdoor 1 .null = .ok 1 from rfl)
  rw [hkept orderOf_generatorTarget 1 1 .null (.int 1) _ rfl hgenerated] at hpoint
  exact ⟨hfirst, hsecond, hpoint⟩

end VectorCommitment
