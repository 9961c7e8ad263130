import VectorCommitment.Proofs.Failure.Outcome
import VectorCommitment.Scheme.Parameters

namespace VectorCommitment

lemma of_proverParam {capacity prover : Value} {g : List Value}
    (hprover : proverParam capacity (.list g) = .ok prover) :
    ∃ n : Nat, prover = .prover n g ∧ 2 * n - 1 ≤ g.length := by
  obtain ⟨n, -, hprover⟩ := Outcome.bind_eq_ok hprover
  change (if g.length < 2 * n - 1 then _ else _) = _ at hprover
  split at hprover
  · exact absurd hprover (Outcome.reject_ne_ok _ _)
  · next hlength => exact ⟨n, (Except.ok.inj hprover).symm, Nat.not_lt.mp hlength⟩

lemma one_le_of_readCapacity {capacity : Value} {n : Nat} (hread : readCapacity capacity = .ok n) :
    1 ≤ n := by
  obtain ⟨i, -, hread⟩ := Outcome.bind_eq_ok hread
  split at hread
  · exact absurd hread (Outcome.reject_ne_ok _ _)
  · rw [← Except.ok.inj hread]
    omega

lemma size_of_proverParam {capacity entries : Value} {n : Nat} {g : List Value}
    (hprover : proverParam capacity entries = .ok (.prover n g)) : 1 ≤ n ∧ 2 * n - 1 ≤ g.length := by
  obtain ⟨m, hcapacity, hprover⟩ := Outcome.bind_eq_ok hprover
  obtain ⟨items, -, hprover⟩ := Outcome.bind_eq_ok hprover
  split at hprover
  · exact absurd hprover (Outcome.reject_ne_ok _ _)
  · next hlength =>
    obtain ⟨rfl, rfl⟩ := Value.prover.inj (Except.ok.inj hprover)
    exact ⟨one_le_of_readCapacity hcapacity, Nat.not_lt.mp hlength⟩

lemma size_of_verifierParam {capacity entries t t' : Value} {n : Nat} {h : List Value}
    (hverifier : verifierParam capacity entries t = .ok (.verifier n h t')) :
    1 ≤ n ∧ n ≤ h.length := by
  obtain ⟨m, hcapacity, hverifier⟩ := Outcome.bind_eq_ok hverifier
  obtain ⟨items, -, hverifier⟩ := Outcome.bind_eq_ok hverifier
  split at hverifier
  · exact absurd hverifier (Outcome.reject_ne_ok _ _)
  · next hlength =>
    split at hverifier
    · exact absurd hverifier (Outcome.reject_ne_ok _ _)
    · obtain ⟨rfl, rfl, -⟩ := Value.verifier.inj (Except.ok.inj hverifier)
      exact ⟨one_le_of_readCapacity hcapacity, Nat.not_lt.mp hlength⟩

variable {capacity : Value} {n : Nat} (hcapacity : capacity.toInt = .ok (n : Int)) (hn : 1 ≤ n)
include hcapacity hn

lemma readCapacity_eq : readCapacity capacity = .ok n := by
  rw [readCapacity, hcapacity]
  change (if (n : Int) < 1 then _ else _) = _
  rw [if_neg (by omega)]
  rfl

lemma proverParam_list {g : List Value} (hg : 2 * n - 1 ≤ g.length) :
    proverParam capacity (.list g) = .ok (.prover n g) := by
  rw [proverParam, readCapacity_eq hcapacity hn]
  exact if_neg (by omega)

lemma verifierParam_list {h : List Value} {t : Target} (hh : n ≤ h.length) :
    verifierParam capacity (.list h) (.target t) = .ok (.verifier n h (.target t)) := by
  rw [verifierParam, readCapacity_eq hcapacity hn]
  exact if_neg (by omega)

end VectorCommitment
