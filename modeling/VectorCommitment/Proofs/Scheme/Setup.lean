import VectorCommitment.Proofs.Failure.Outcome
import VectorCommitment.Proofs.Value.Pairing
import VectorCommitment.Scheme.Setup

namespace VectorCommitment

open Point Value

namespace Setup

lemma powersFrom_eq (α power count : ℕ) :
    powersFrom α power count = (List.range count).map fun k => power * α ^ (k + 1) % groupOrder := by
  induction count generalizing power with
  | zero => rfl
  | succ count ih =>
    rw [powersFrom, ih, List.range_succ_eq_map, List.map_cons, List.map_map, zero_add, pow_one]
    congr 1
    apply List.map_congr_left
    intro k _
    rw [Function.comp_apply, Nat.mod_mul_mod, mul_assoc, Nat.succ_eq_add_one, pow_succ' α (k + 1)]

lemma powers_eq (α count : ℕ) :
    powers α count = (List.range count).map fun k => α ^ (k + 1) % groupOrder := by
  rw [powers, powersFrom_eq]
  simp only [one_mul]

def proverResidue (α capacity k : ℕ) : ZMod groupOrder :=
  if k = capacity then 0 else (α : ZMod groupOrder) ^ (k + 1)

def proverValues (α capacity : ℕ) : List Value :=
  (List.range (2 * capacity)).map fun k => ofResidue (proverResidue α capacity k)

def verifierValues (α capacity : ℕ) : List Value :=
  (List.range capacity).map fun k => ofTwistResidue ((α : ZMod groupOrder) ^ (k + 1))

lemma getElem?_verifierValues (α : ℕ) {capacity position : ℕ} (hposition : position < capacity) :
    (verifierValues α capacity)[capacity - position - 1]? =
      some (ofTwistResidue ((α : ZMod groupOrder) ^ (capacity - position))) := by
  have hindex : capacity - position - 1 + 1 = capacity - position := by omega
  rw [verifierValues, List.getElem?_map, List.getElem?_range (by omega), Option.map_some, hindex]

def proverRecord (α capacity : ℕ) : Value := .prover capacity (proverValues α capacity)

def verifierRecord (base : Target) (α capacity : ℕ) : Value :=
  .verifier capacity (verifierValues α capacity)
    (.target (base.power ((α : ZMod groupOrder) ^ (capacity + 1))))

def verifierWith (t : Target) (α capacity : ℕ) : Value :=
  .verifier capacity (verifierValues α capacity) (.target t)

lemma map_proverPoints (α capacity : ℕ) :
    (proverPoints α capacity).map ofG1 = proverValues α capacity := by
  rw [proverPoints, powers_eq, proverValues]
  apply List.ext_getElem
  · simp
  · intro k hk _
    by_cases hkc : k = capacity
    · subst hkc
      simp [proverResidue, ofResidue_zero, ofG1]
    · have hcast : ((α ^ (k + 1) % groupOrder : ℕ) : ZMod groupOrder) = proverResidue α capacity k := by
        rw [proverResidue, if_neg hkc, ZMod.natCast_mod, Nat.cast_pow]
      rw [List.getElem_map, List.getElem_set_ne (Ne.symm hkc), List.getElem_map, List.getElem_map,
        List.getElem_map, List.getElem_range, ← multiple_natCast, hcast]
      rfl

lemma map_verifierPoints (α capacity : ℕ) :
    (verifierPoints α capacity).map ofG2 = verifierValues α capacity := by
  rw [verifierPoints, powers_eq, verifierValues, List.map_map, List.map_map]
  apply List.map_congr_left
  intro k _
  rw [Function.comp_apply, Function.comp_apply, ← multiple_natCast, ZMod.natCast_mod, Nat.cast_pow]
  rfl

lemma trapdoor_eq {seed : Value} {t : Text} {bytes : List UInt8} (hseed : seed ≠ .null)
    (hwritten : seed.write = .ok t) (hbytes : Text.encodeUtf8? t = some bytes)
    (hne : hashToScalar bytes ≠ 0) (drawn : ℕ) :
    trapdoor drawn seed = .ok (hashToScalar bytes) := by
  have hfound : trapdoor? t = .ok (some (hashToScalar bytes)) := by
    rw [trapdoor?, hbytes]
    exact congrArg Except.ok (if_neg hne)
  rw [trapdoor, hwritten, Outcome.ok_bind, hfound, Outcome.ok_bind]
  · rfl
  · exact hseed

lemma of_parameters {e : PairingMap} {α capacity : ℕ} {prover verifier : Value}
    (hparameters : parameters e α capacity = .ok (prover, verifier)) :
    ∃ t, verifierTarget e α capacity = .ok t ∧ prover = proverRecord α capacity ∧
      verifier = verifierWith t α capacity := by
  obtain ⟨t, htarget, hparameters⟩ := Outcome.bind_eq_ok hparameters
  rw [map_proverPoints, map_verifierPoints] at hparameters
  unfold ofPairing at htarget
  split at htarget
  · next hpaired =>
    obtain rfl := Except.ok.inj htarget
    obtain ⟨rfl, rfl⟩ := Prod.mk.inj (Except.ok.inj hparameters)
    exact ⟨_, hpaired, rfl, rfl⟩
  · exact absurd htarget (Outcome.refuse_ne_ok _ _)

variable {e : PairingMap} {base : Target} (h : e.IsBilinear base)
include h

lemma verifierTarget_eq (α : ℕ) {capacity : ℕ} (hcapacity : 1 ≤ capacity) :
    verifierTarget e α capacity =
      .ok (base.power ((α : ZMod groupOrder) ^ (capacity + 1))) := by
  have hpower : (powers α (2 * capacity)).getD capacity 0 = α ^ (capacity + 1) % groupOrder := by
    rw [powers_eq, List.getD_eq_getElem?_getD, List.getElem?_map,
      List.getElem?_range (show capacity < 2 * capacity by omega)]
    rfl
  rw [verifierTarget, hpower, ← multiple_natCast, ← multiple_one (g := G2.generator),
    h.pair_multiple, mul_one, ZMod.natCast_mod, Nat.cast_pow]

lemma parameters_eq (α : ℕ) {capacity : ℕ} (hcapacity : 1 ≤ capacity) :
    parameters e α capacity = .ok (proverRecord α capacity, verifierRecord base α capacity) := by
  rw [parameters, verifierTarget_eq h α hcapacity, map_proverPoints, map_verifierPoints]
  rfl

end Setup

lemma of_generate {e : PairingMap} {drawn : ℕ} {capacity seed prover verifier : Value}
    (hgenerated : generate e drawn capacity seed = .ok (prover, verifier)) :
    ∃ (α n : ℕ) (t : Target), capacity.toInt = .ok (n : ℤ) ∧ 1 ≤ n ∧
      Setup.trapdoor drawn seed = .ok α ∧ Setup.verifierTarget e α n = .ok t ∧
      prover = Setup.proverRecord α n ∧ verifier = Setup.verifierWith t α n := by
  obtain ⟨n, hcapacity, hgenerated⟩ := Outcome.bind_eq_ok hgenerated
  split at hgenerated
  · exact absurd hgenerated (Outcome.reject_ne_ok _ _)
  · obtain ⟨α, hα, hgenerated⟩ := Outcome.bind_eq_ok hgenerated
    obtain ⟨t, htarget, hrecords⟩ := Setup.of_parameters hgenerated
    have hn : 1 ≤ n.toNat := by omega
    have hnat : (n.toNat : ℤ) = n := by omega
    exact ⟨α, n.toNat, t, hcapacity.trans (congrArg _ hnat.symm), hn, hα, htarget, hrecords⟩

lemma exists_of_generate {e : PairingMap} {base : Target} (h : e.IsBilinear base) {drawn : ℕ}
    {capacity seed prover verifier : Value}
    (hgenerated : generate e drawn capacity seed = .ok (prover, verifier)) :
    ∃ α n : ℕ, capacity.toInt = .ok (n : ℤ) ∧ 1 ≤ n ∧ Setup.trapdoor drawn seed = .ok α ∧
      prover = Setup.proverRecord α n ∧ verifier = Setup.verifierRecord base α n := by
  obtain ⟨α, n, t, hcapacity, hn, hα, htarget, hprover, rfl⟩ := of_generate hgenerated
  obtain rfl := Except.ok.inj (htarget.symm.trans (Setup.verifierTarget_eq h α hn))
  exact ⟨α, n, hcapacity, hn, hα, hprover, rfl⟩

lemma generate_eq {e : PairingMap} {base : Target} (h : e.IsBilinear base) {drawn α n : ℕ}
    {capacity seed : Value} (hcapacity : capacity.toInt = .ok (n : ℤ)) (hn : 1 ≤ n)
    (hα : Setup.trapdoor drawn seed = .ok α) :
    generate e drawn capacity seed = .ok (Setup.proverRecord α n, Setup.verifierRecord base α n) := by
  rw [generate, hcapacity, hα, ← Setup.parameters_eq h α hn]
  change (if ((n : ℤ) < 1) then _ else _) = _
  rw [if_neg (by omega)]
  rfl

end VectorCommitment
