import VectorCommitment.Curve.Pairing
import VectorCommitment.Proofs.Curve.Groups
import VectorCommitment.Proofs.Field.Target

namespace VectorCommitment

open Point

/-- The pairing law on the multiples of the generators, whose pairing is `base`. -/
structure PairingMap.IsBilinear (e : PairingMap) (base : Target) : Prop where
  pair_multiples : ∀ a b : ℕ,
    e.pair (b • G2.generator) (a • G1.generator) = .ok (base ^ (a * b))

/-- Every multiple of the generator of the second group has a pairing with every point of the
curve. -/
def PairingMap.IsTotal (e : PairingMap) : Prop :=
  ∀ (b : ℕ) (p : G1), p.isOnCurve = true → ∃ t, e.pair (b • G2.generator) p = .ok t

namespace Target

def power (base : Target) (x : ZMod groupOrder) : Target := base ^ x.val

lemma power_zero (base : Target) : base.power 0 = 1 := by
  rw [power, ZMod.val_zero, pow_zero]

lemma power_natCast {base : Target} (hbase : base ^ groupOrder = 1) (n : ℕ) :
    base.power n = base ^ n := by
  rw [power, ZMod.val_natCast]
  conv_rhs => rw [← Nat.mod_add_div n groupOrder, pow_add, pow_mul, hbase, one_pow, mul_one]

lemma power_add {base : Target} (hbase : base ^ groupOrder = 1) (x y : ZMod groupOrder) :
    base.power (x + y) = base.power x * base.power y := by
  obtain ⟨m, rfl⟩ := ZMod.natCast_zmod_surjective x
  obtain ⟨n, rfl⟩ := ZMod.natCast_zmod_surjective y
  rw [← Nat.cast_add, power_natCast hbase, power_natCast hbase, power_natCast hbase, pow_add]

lemma power_mul {base : Target} (hbase : base ^ groupOrder = 1) (x y : ZMod groupOrder) :
    base.power (x * y) = (base.power x).power y := by
  obtain ⟨m, rfl⟩ := ZMod.natCast_zmod_surjective x
  have hpower : (base ^ m).power y = base ^ (m * y.val) := (pow_mul base m y.val).symm
  rw [power_natCast hbase, hpower, ← power_natCast hbase, Nat.cast_mul, ZMod.natCast_rightInverse]

lemma power_injective {base : Target} (hbase : orderOf base = groupOrder) :
    Function.Injective base.power := by
  intro x y h
  have hmod := pow_injOn_Iio_orderOf (x := base) (by simpa [hbase] using x.val_lt)
    (by simpa [hbase] using y.val_lt) h
  exact ZMod.val_injective _ hmod

end Target

namespace PairingMap.IsBilinear

variable {e : PairingMap} {base : Target} (h : e.IsBilinear base)
include h

lemma base_pow_groupOrder : base ^ groupOrder = 1 := by
  have hzero : groupOrder • G1.generator = Point.infinity := by
    rw [← multiple_natCast, ZMod.natCast_self, multiple_zero]
  have hpair := h.pair_multiples groupOrder 1
  rw [hzero, mul_one] at hpair
  exact (Except.ok.inj hpair).symm

lemma pair_multiple (x y : ZMod groupOrder) :
    e.pair (G2.generator.multiple y) (G1.generator.multiple x) = .ok (base.power (x * y)) := by
  rw [multiple, multiple, h.pair_multiples, ← Target.power_natCast h.base_pow_groupOrder,
    Nat.cast_mul, ZMod.natCast_rightInverse, ZMod.natCast_rightInverse]

lemma isTotal : e.IsTotal := by
  intro b p hp
  obtain ⟨x, rfl⟩ := G1.exists_multiple hp
  rw [← multiple_natCast]
  exact ⟨_, h.pair_multiple x b⟩

end PairingMap.IsBilinear

def generatorTarget : Target :=
  ⟨[.ofNat 18443897754565973717256850119554731228214108935025491924036055734000366132575,
    .ofNat 10734401203193558706037776473742910696504851986739882094082017010340198538454,
    .ofNat 5985796159921227033560968606339653189163760772067273492369082490994528765680,
    .ofNat 4093294155816392700623820137842432921872230622290337094591654151434545306688,
    .ofNat 642121370160833232766181493494955044074321385528883791668868426879070103434,
    .ofNat 4527449849947601357037044178952942489926487071653896435602814872334098625391,
    .ofNat 3758435817766288188804561253838670030762970764366672594784247447067868088068,
    .ofNat 18059168546148152671857026372711724379319778306792011146784665080987064164612,
    .ofNat 14656606573936501743457633041048024656612227301473084805627390748872617280984,
    .ofNat 17918828665069491344039743589118342552553375221610735811112289083834142789347,
    .ofNat 19455424343576886430889849773367397946457449073528455097210946839000147698372,
    .ofNat 7484542354754424633621663080190936924481536615300815203692506276894207018007], rfl⟩

lemma orderOf_generatorTarget : orderOf generatorTarget = groupOrder :=
  orderOf_eq_prime (by decide +kernel) (by decide +kernel)

noncomputable def logarithmPairing : PairingMap := fun q p =>
  .ok (generatorTarget.power (G1.generator.logarithm p * G2.generator.logarithm q))

lemma logarithmPairing_isBilinear : logarithmPairing.IsBilinear generatorTarget := by
  have hbase : generatorTarget ^ groupOrder = 1 := by
    rw [← orderOf_generatorTarget, pow_orderOf_eq_one]
  refine ⟨fun a b => ?_⟩
  have htwist : G2.isOnTwist (G2.generator.multiple b) = true := isOn_multiple _
  have hcurve : G1.isOnCurve (G1.generator.multiple a) = true := isOn_multiple _
  rw [← multiple_natCast, ← multiple_natCast, ← Target.power_natCast hbase, Nat.cast_mul]
  unfold PairingMap.pair
  rw [htwist, hcurve]
  simp only [Bool.not_true, Bool.false_eq_true, if_false]
  split
  · next hq => rw [(multiple_eq_infinity_iff _).mp hq, mul_zero, Target.power_zero]
  · next hp _ => rw [(multiple_eq_infinity_iff _).mp hp, zero_mul, Target.power_zero]
  · rw [logarithmPairing, logarithm_multiple, logarithm_multiple]

end VectorCommitment
