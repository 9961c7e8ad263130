import VectorCommitment.Proofs.Failure.Outcome
import VectorCommitment.Proofs.Scheme.Setup
import VectorCommitment.Scheme.Commitment

namespace VectorCommitment

open Value

def Value.residueClass? : Value → Option (ZMod groupOrder)
  | .int i => some i
  | .scalar residue => some residue
  | _ => none

lemma cast_toNat_emod (i : ℤ) : ((i % groupOrder).toNat : ZMod groupOrder) = i := by
  rw [← Int.cast_natCast, Int.toNat_of_nonneg (Int.emod_nonneg _ (by decide)), ZMod.intCast_mod]

lemma natCast_ne_zero {n : ℕ} (hzero : n ≠ 0) (hlt : n < groupOrder) :
    (n : ZMod groupOrder) ≠ 0 := by
  rw [Ne, ZMod.natCast_eq_zero_iff]
  exact Nat.not_dvd_of_pos_of_lt (Nat.pos_of_ne_zero hzero) hlt

lemma exists_messageUnit {v : Value} {z : ZMod groupOrder} (hv : v.residueClass? = some z) :
    ∃ unit : ℕ, messageUnit? v = some unit ∧ (unit : ZMod groupOrder) = z := by
  unfold residueClass? at hv
  split at hv
  · next i =>
    refine ⟨(i % groupOrder).toNat, rfl, ?_⟩
    rw [← Option.some.inj hv, cast_toNat_emod]
  · next residue => exact ⟨residue, rfl, Option.some.inj hv⟩
  · cases hv

lemma requireUnit_eq {v : Value} {unit : ℕ} (hv : messageUnit? v = some unit) :
    requireUnit v = .ok unit := by
  rw [requireUnit, hv]

lemma checkPosition_eq {capacity position : ℕ} (hposition : position < capacity) :
    checkPosition capacity (.int position) = .ok position := by
  rw [checkPosition, if_pos (by omega), Int.toNat_natCast]

lemma cast_negatedInverse (unit : ℕ) :
    (((groupOrder - inverseMod groupOrder unit) % groupOrder : ℕ) : ZMod groupOrder) =
      -(unit : ZMod groupOrder)⁻¹ := by
  have hle := (inverseMod_lt groupOrder_pos unit).le
  rw [ZMod.natCast_mod, Nat.cast_sub hle, ZMod.natCast_self, cast_inverseMod, zero_sub]

section Verification

variable {e : PairingMap} {base : Target} (h : e.IsBilinear base)
include h

lemma verify_eq {capacity position : ℕ} {entries : List Value} {target : Target} {value : Value}
    {y z : ZMod groupOrder} (hposition : position < capacity)
    (hentry : entries[capacity - position - 1]? = some (ofTwistResidue y))
    (hvalue : value.residueClass? = some z) (hz : z ≠ 0) (c w : ZMod groupOrder) :
    verify e (ofResidue c) (.verifier capacity entries (.target target)) value (.int position)
        (ofResidue w) =
      .ok (base.power ((c * y - w) / z) = target) := by
  obtain ⟨unit, hunit, rfl⟩ := exists_messageUnit hvalue
  have hnonzero : unit ≠ 0 := by
    rintro rfl
    exact hz Nat.cast_zero
  have hc : (ofResidue c).isG1Point = true := (isG1Point_iff _).mpr ⟨c, rfl⟩
  have hw : (ofResidue w).isG1Point = true := (isG1Point_iff _).mpr ⟨w, rfl⟩
  have hexponent : (unit : ZMod groupOrder)⁻¹ * c * y + -(unit : ZMod groupOrder)⁻¹ * w =
      (c * y - w) / unit := by
    rw [div_eq_mul_inv]
    ring
  simp only [verify, capacityField, verifierEntries, checkPosition_eq hposition,
    requireUnit_eq hunit, bind, Except.bind, if_neg hnonzero, hc, hw, Bool.not_true,
    Bool.false_eq_true, if_false, mulPoint_ofResidue, hentry, pairingProduct_multiples h,
    cast_inverseMod, cast_negatedInverse, hexponent]
  rfl

end Verification

lemma position_of_checkPosition {capacity k : ℕ} {position : Value}
    (h : checkPosition capacity position = .ok k) : position = .int k ∧ k < capacity := by
  unfold checkPosition at h
  split at h
  · split at h
    · next i hi =>
      obtain rfl := Except.ok.inj h
      exact ⟨congrArg Value.int (Int.toNat_of_nonneg hi.1).symm, by omega⟩
    · exact absurd h (Outcome.reject_ne_ok _ _)
  · exact absurd h (Outcome.reject_ne_ok _ _)

lemma exists_of_accepted {e : PairingMap} {capacity : ℕ} {entries : List Value}
    {commitment target value position witness : Value}
    (haccepted : verify e commitment (.verifier capacity entries target) value position witness =
      .ok true) :
    ∃ (c w : ZMod groupOrder) (k : ℕ) (entry : Value), ofResidue c = commitment ∧
      ofResidue w = witness ∧ position = .int k ∧ k < capacity ∧
      entries[capacity - k - 1]? = some entry := by
  change (checkPosition capacity position >>= _) = _ at haccepted
  obtain ⟨k, hk, haccepted⟩ := Outcome.bind_eq_ok haccepted
  obtain ⟨unit, -, haccepted⟩ := Outcome.bind_eq_ok haccepted
  obtain ⟨hposition, hlt⟩ := position_of_checkPosition hk
  split at haccepted
  · exact absurd haccepted (Outcome.reject_ne_ok _ _)
  split at haccepted
  · exact absurd haccepted (Outcome.reject_ne_ok _ _)
  next hcommitment =>
  split at haccepted
  · exact absurd haccepted (Outcome.reject_ne_ok _ _)
  next hwitness =>
  obtain ⟨c, hc⟩ := (isG1Point_iff commitment).mp (by simpa using hcommitment)
  obtain ⟨w, hw⟩ := (isG1Point_iff witness).mp (by simpa using hwitness)
  obtain ⟨scaled, -, haccepted⟩ := Outcome.bind_eq_ok haccepted
  obtain ⟨proof, -, haccepted⟩ := Outcome.bind_eq_ok haccepted
  cases hentry : entries[capacity - k - 1]? with
  | none =>
    simp only [verifierEntries, bind, Except.bind, hentry] at haccepted
    exact absurd haccepted (Outcome.refuse_ne_ok _ _)
  | some entry => exact ⟨c, w, k, entry, hc, hw, hposition, hlt, hentry⟩

lemma power_eq_iff {base : Target} (horder : orderOf base = groupOrder) {z : ZMod groupOrder}
    (hz : z ≠ 0) (x y w : ZMod groupOrder) :
    base.power ((x - w) / z) = base.power y ↔ w = x - z * y := by
  rw [(Target.power_injective horder).eq_iff, div_eq_iff hz]
  constructor
  · intro hexponents
    linear_combination -hexponents
  · intro hwitness
    linear_combination -hwitness

/-- Generated parameters accept exactly the witness whose residue solves one linear equation. -/
theorem verify_generated {e : PairingMap} {base : Target} (h : e.IsBilinear base)
    (horder : orderOf base = groupOrder) {drawn α n : ℕ} {capacity seed : Value}
    (hcapacity : capacity.toInt = .ok (n : ℤ)) (hn : 1 ≤ n)
    (hα : Setup.trapdoor drawn seed = .ok α) :
    ∃ prover verifier, generate e drawn capacity seed = .ok (prover, verifier) ∧
      ∀ (position : ℕ) (value : Value) (z : ZMod groupOrder) (c : ℕ), position < n →
        value.residueClass? = some z → z ≠ 0 →
        (∀ w : ℕ, verify e (.ofG1 (c • G1.generator)) verifier value (.int position)
            (.ofG1 (w • G1.generator)) =
          .ok ((w : ZMod groupOrder) = c * (α : ZMod groupOrder) ^ (n - position) -
            z * (α : ZMod groupOrder) ^ (n + 1))) ∧
        ∃! witness, verify e (.ofG1 (c • G1.generator)) verifier value (.int position) witness =
          .ok true := by
  refine ⟨_, _, generate_eq h hcapacity hn hα, ?_⟩
  intro position value z c hposition hvalue hz
  have haccepts : ∀ w : ZMod groupOrder,
      verify e (ofResidue c) (Setup.verifierRecord base α n) value (.int position) (ofResidue w) =
        .ok (w = c * (α : ZMod groupOrder) ^ (n - position) -
          z * (α : ZMod groupOrder) ^ (n + 1)) := by
    intro w
    rw [Setup.verifierRecord,
      verify_eq h hposition (Setup.getElem?_verifierValues α hposition) hvalue hz]
    exact congrArg Except.ok (decide_eq_decide.mpr (power_eq_iff horder hz _ _ _))
  simp only [ofG1_nsmul_generator]
  refine ⟨fun w => haccepts w, ofResidue (c * (α : ZMod groupOrder) ^ (n - position) -
    z * (α : ZMod groupOrder) ^ (n + 1)), ?_, ?_⟩
  · dsimp only
    rw [haccepts, decide_eq_true rfl]
  · intro witness hwitness
    obtain ⟨-, w, -, -, -, rfl, -, -, -⟩ := exists_of_accepted hwitness
    rw [haccepts] at hwitness
    rw [of_decide_eq_true (Except.ok.inj hwitness)]

theorem verify_generated_two_witnesses :
    ∃ prover verifier, generate logarithmPairing 5 (.int 2) .null = .ok (prover, verifier) ∧
      verify logarithmPairing (.ofG1 (7 • G1.generator)) verifier (.int (-3)) (.int 1)
        (.ofG1 (410 • G1.generator)) = .ok true ∧
      verify logarithmPairing (.ofG1 (7 • G1.generator)) verifier (.int (-3)) (.int 1)
        (.ofG1 (411 • G1.generator)) = .ok false := by
  obtain ⟨prover, verifier, hgenerated, hverify⟩ := verify_generated logarithmPairing_isBilinear
    orderOf_generatorTarget (n := 2) (show (Value.int 2).toInt = _ from rfl) (by decide)
    (show Setup.trapdoor 5 .null = _ from rfl)
  have hne : ((-3 : ℤ) : ZMod groupOrder) ≠ 0 := by decide +kernel
  obtain ⟨hwitness, -⟩ := hverify 1 (.int (-3)) _ 7 (by decide) rfl hne
  have hright := hwitness 410
  have hwrong := hwitness 411
  rw [decide_eq_true (by decide +kernel)] at hright
  rw [decide_eq_false (by decide +kernel)] at hwrong
  exact ⟨prover, verifier, hgenerated, hright, hwrong⟩

end VectorCommitment
