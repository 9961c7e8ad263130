import VectorCommitment.Proofs.Codec.Decimal
import VectorCommitment.Proofs.Scheme.Opening
import VectorCommitment.Proofs.Store.Table
import VectorCommitment.Service.Records

namespace VectorCommitment

open Point Value

namespace Codec

lemma joinSurrogates_text_ofNat (n : ℕ) :
    (Value.text (Text.ofNat n)).joinSurrogates = .text (Text.ofNat n) := by
  rw [joinSurrogates, Text.joinSurrogates_eq]
  intro c hc
  exact (Text.lt_of_mem_ofNat hc).trans (by decide)

lemma joinSurrogates_scalarData (n : ℕ) : (scalarData n).joinSurrogates = scalarData n :=
  joinSurrogates_text_ofNat n

lemma joinSurrogates_coordinateNumeral (x : Fp) :
    (coordinateNumeral x).joinSurrogates = coordinateNumeral x :=
  joinSurrogates_text_ofNat x.val

lemma joinSurrogates_g1Data (p : G1) : (g1Data p).joinSurrogates = g1Data p := by
  cases p with
  | infinity => rfl
  | affine x y => exact joinSurrogates_map coordinateNumeral [x, y] joinSurrogates_coordinateNumeral

lemma joinSurrogates_quadraticData (x : Fp2) :
    (quadraticData x).joinSurrogates = quadraticData x :=
  joinSurrogates_map coordinateNumeral [x.re, x.im] joinSurrogates_coordinateNumeral

lemma joinSurrogates_g2Data (q : G2) : (g2Data q).joinSurrogates = g2Data q := by
  cases q with
  | infinity => rfl
  | affine x y => exact joinSurrogates_map quadraticData [x, y] joinSurrogates_quadraticData

lemma joinSurrogates_targetData (t : Target) : (targetData t).joinSurrogates = targetData t :=
  joinSurrogates_map coordinateNumeral t.coeffs joinSurrogates_coordinateNumeral

lemma joinSurrogates_proverData (capacity : ℕ) (points : List G1) :
    (proverData capacity points).joinSurrogates = proverData capacity points := by
  have hpoints := joinSurrogates_map g1Data points joinSurrogates_g1Data
  change Value.dict [(Text.ofString "capacity", .int capacity),
    (Text.ofString "g", (Value.list (points.map g1Data)).joinSurrogates)] = _
  rw [hpoints]
  rfl

lemma joinSurrogates_verifierData (capacity : ℕ) (points : List G2) (t : Target) :
    (verifierData capacity points t).joinSurrogates = verifierData capacity points t := by
  have hpoints := joinSurrogates_map g2Data points joinSurrogates_g2Data
  change Value.dict [(Text.ofString "capacity", .int capacity),
    (Text.ofString "h", (Value.list (points.map g2Data)).joinSurrogates),
    (Text.ofString "t", (targetData t).joinSurrogates)] = _
  rw [hpoints, joinSurrogates_targetData]
  rfl

end Codec

namespace Setup

lemma isOnCurve_of_mem_proverPoints {α capacity : ℕ} {p : G1}
    (hp : p ∈ proverPoints α capacity) : p.isOnCurve = true := by
  have hvalue : ofG1 p ∈ proverValues α capacity := by
    rw [← map_proverPoints]
    exact List.mem_map_of_mem hp
  obtain ⟨k, -, hk⟩ := List.mem_map.mp hvalue
  rw [← ofG1_injective hk]
  exact isOn_multiple _

lemma isOnTwist_of_mem_verifierPoints {α capacity : ℕ} {q : G2}
    (hq : q ∈ verifierPoints α capacity) : q.isOnTwist = true := by
  obtain ⟨power, -, rfl⟩ := List.mem_map.mp hq
  rw [← multiple_natCast]
  exact isOn_multiple _

lemma length_proverPoints (α capacity : ℕ) : (proverPoints α capacity).length = 2 * capacity := by
  rw [proverPoints, powers_eq, List.length_set, List.length_map, List.length_map, List.length_range]

lemma length_verifierPoints (α capacity : ℕ) : (verifierPoints α capacity).length = capacity := by
  rw [verifierPoints, powers_eq, List.length_map, List.length_map, List.length_range]

def proverData (α capacity : ℕ) : Value := Codec.proverData capacity (proverPoints α capacity)

def verifierDataWith (t : Target) (α capacity : ℕ) : Value :=
  Codec.verifierData capacity (verifierPoints α capacity) t

def verifierData (base : Target) (α capacity : ℕ) : Value :=
  Codec.verifierData capacity (verifierPoints α capacity)
    (base.power ((α : ZMod groupOrder) ^ (capacity + 1)))

lemma writeProver_proverRecord (α capacity : ℕ) :
    Codec.writeProver (proverRecord α capacity) = .ok (proverData α capacity) := by
  rw [proverRecord, ← map_proverPoints, Codec.writeProver_prover]
  rfl

lemma writeVerifier_verifierWith (t : Target) (α capacity : ℕ) :
    Codec.writeVerifier (verifierWith t α capacity) = .ok (verifierDataWith t α capacity) := by
  rw [verifierWith, ← map_verifierPoints, Codec.writeVerifier_verifier]
  rfl

lemma readProver_proverData (α : ℕ) {capacity : ℕ} (hcapacity : 1 ≤ capacity) :
    Codec.readProver (proverData α capacity) = .ok (proverRecord α capacity) := by
  have hlength : 2 * capacity - 1 ≤ (proverPoints α capacity).length := by
    rw [length_proverPoints]
    omega
  rw [proverData, Codec.readProver_proverData hcapacity hlength
    fun p hp => isOnCurve_of_mem_proverPoints hp, map_proverPoints]
  rfl

lemma readVerifier_verifierDataWith (t : Target) (α : ℕ) {capacity : ℕ} (hcapacity : 1 ≤ capacity) :
    Codec.readVerifier (verifierDataWith t α capacity) = .ok (verifierWith t α capacity) := by
  have hlength := (length_verifierPoints α capacity).ge
  rw [verifierDataWith, Codec.readVerifier_verifierData hcapacity hlength
    fun q hq => isOnTwist_of_mem_verifierPoints hq, map_verifierPoints]
  rfl

end Setup

end VectorCommitment
