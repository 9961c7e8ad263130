import VectorCommitment.Proofs.Codec.Decimal
import VectorCommitment.Proofs.Value.Points

namespace VectorCommitment

open Point Value

namespace Codec

lemma exists_map_eq {α : Type} {f : α → Value} {isPoint : Value → Bool} {isOn : α → Bool}
    (hf : ∀ v, isPoint v = true → ∃ p, isOn p = true ∧ f p = v) {values : List Value}
    (hvalues : ∀ v ∈ values, isPoint v = true) :
    ∃ points : List α, points.map f = values ∧ ∀ p ∈ points, isOn p = true := by
  induction values with
  | nil => exact ⟨[], rfl, by simp⟩
  | cons v values ih =>
    obtain ⟨hv, hrest⟩ := List.forall_mem_cons.mp hvalues
    obtain ⟨p, hp, rfl⟩ := hf v hv
    obtain ⟨points, rfl, hpoints⟩ := ih hrest
    exact ⟨p :: points, rfl, List.forall_mem_cons.mpr ⟨hp, hpoints⟩⟩

lemma prover_returns {capacity : ℕ} {g : List Value} (hcapacity : 1 ≤ capacity)
    (hlength : 2 * capacity - 1 ≤ g.length) (hg : ∀ p ∈ g, p.isG1Point = true) :
    ∃ data, writeProver (.prover capacity g) = .ok data ∧
      readProver data = .ok (.prover capacity g) := by
  obtain ⟨points, rfl, hon⟩ := exists_map_eq (fun _ => exists_of_isG1Point) hg
  rw [List.length_map] at hlength
  exact ⟨_, writeProver_prover capacity points, readProver_proverData hcapacity hlength hon⟩

lemma verifier_returns {capacity : ℕ} {h : List Value} (t : Target) (hcapacity : 1 ≤ capacity)
    (hlength : capacity ≤ h.length) (hh : ∀ q ∈ h, q.isG2Point = true) :
    ∃ data, writeVerifier (.verifier capacity h (.target t)) = .ok data ∧
      readVerifier data = .ok (.verifier capacity h (.target t)) := by
  obtain ⟨points, rfl, hon⟩ := exists_map_eq (fun _ => exists_of_isG2Point) hh
  rw [List.length_map] at hlength
  exact ⟨_, writeVerifier_verifier capacity points t,
    readVerifier_verifierData hcapacity hlength hon⟩

/-- Records whose entries are points are read as they were written. Of scalars the residues by the
group order are read, so a list comes back as it was where its residues are reduced, and only
there. -/
theorem stored_values_return :
    (∀ (capacity entries : Value) (n : ℕ) (g : List Value),
      proverParam capacity entries = .ok (.prover n g) → (∀ p ∈ g, p.isG1Point = true) →
      ∃ data, writeProver (.prover n g) = .ok data ∧ readProver data = .ok (.prover n g)) ∧
    (∀ (capacity entries : Value) (n : ℕ) (h : List Value) (t : Target),
      verifierParam capacity entries (.target t) = .ok (.verifier n h (.target t)) →
      (∀ q ∈ h, q.isG2Point = true) →
      ∃ data, writeVerifier (.verifier n h (.target t)) = .ok data ∧
        readVerifier data = .ok (.verifier n h (.target t))) ∧
    ∀ units : List ℕ, (∀ unit ∈ units, Text.isWritable unit = true) →
      ∃ data, writeScalars (.list (units.map .scalar)) = .ok data ∧
        readScalars data = .ok (units.map (· % groupOrder)) ∧
        (readScalars data = .ok units ↔ ∀ unit ∈ units, unit < groupOrder) := by
  refine ⟨fun capacity entries n g hmade hg => ?_, fun capacity entries n h t hmade hh => ?_,
    fun units hunits => ?_⟩
  · obtain ⟨hcapacity, hlength⟩ := size_of_proverParam hmade
    exact prover_returns hcapacity hlength hg
  · obtain ⟨hcapacity, hlength⟩ := size_of_verifierParam hmade
    exact verifier_returns t hcapacity hlength hh
  · have hread := readScalars_residues hunits
    refine ⟨_, writeScalars_residues hunits, hread, ?_⟩
    rw [hread, Except.ok.injEq, map_mod_eq_iff]

theorem stored_values_return_gap :
    (∃ data, writeProver (.prover 1 [ofG1 G1.generator, .null]) = .ok data ∧
      readProver data = .ok (.prover 1 [ofG1 G1.generator, .null])) ∧
    (∃ data, writeVerifier (.verifier 1 [.null] (.target 1)) = .ok data ∧
      readVerifier data = .ok (.verifier 1 [.null] (.target 1))) ∧
    ∃ data, writeScalars (.list [.scalar 7]) = .ok data ∧ readScalars data = .ok [7] := by
  obtain ⟨hprover, hverifier, hscalars⟩ := stored_values_return
  refine ⟨?_, ?_, ?_⟩
  · refine hprover (.int 1) (.list [ofG1 G1.generator, .null]) _ _ rfl ?_
    decide
  · refine hverifier (.int 1) (.list [.null]) _ _ _ rfl ?_
    decide
  · obtain ⟨data, hwritten, -, hread⟩ := hscalars [7] (by decide +kernel)
    refine ⟨data, hwritten, hread.mpr ?_⟩
    decide

theorem stored_values_return_unreduced :
    (Value.coordinate (.ofNat groupOrder)).toScalar = .ok (.scalar groupOrder) ∧
    ∃ data, writeScalars (.list [.scalar groupOrder]) = .ok data ∧ readScalars data = .ok [0] ∧
      (Value.list [.scalar 0]).isSame (.list [.scalar groupOrder]) = .ok false := by
  have hwritable : ∀ unit ∈ [groupOrder], Text.isWritable unit = true := by decide +kernel
  have hwritten := writeScalars_residues hwritable
  have hread := readScalars_residues hwritable
  refine ⟨rfl, _, hwritten, ?_, ?_⟩
  · rw [hread]
    rfl
  · rfl

end Codec

end VectorCommitment
