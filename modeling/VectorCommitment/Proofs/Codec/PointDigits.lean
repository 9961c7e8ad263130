import VectorCommitment.Proofs.Codec.Point

namespace VectorCommitment

open Outcome Value

lemma length_of_encodePoint {p : Value} {bytes : List UInt8} (hencoded : encodePoint p = .ok bytes) :
    bytes.length = encodedSize := by
  unfold encodePoint at hencoded
  split at hencoded
  · next q _ =>
    rw [← Except.ok.inj hencoded]
    exact q.length_encode
  · exact absurd hencoded (reject_ne_ok _ _)

lemma pointToHex_eq_ok_iff (p : Value) (bytes : List UInt8) :
    pointToHex p = .ok (Text.ofBytes bytes) ↔ encodePoint p = .ok bytes := by
  rw [pointToHex]
  cases encodePoint p with
  | error failure => exact iff_of_false (fun h => by cases h) fun h => by cases h
  | ok found =>
    change Except.ok (Text.ofBytes found) = Except.ok (Text.ofBytes bytes) ↔ _
    rw [Except.ok.injEq, Except.ok.injEq, Text.ofBytes_injective.eq_iff]

lemma accepts_pointOfHex (t : Text) :
    Accepts .serialization (pointOfHex (.text t)) fun p =>
      p.isG1Point = true ∧ t.IsHexPairs 64 ∧ pointToHex p = .ok t.withoutBlanks.lowerCase := by
  rw [pointOfHex]
  cases hread : Text.readHex? t with
  | none =>
    have hrejected : Rejects .serialization (reject (.notHex t) : Outcome Value) :=
      rejects_reject rfl rfl
    refine accepts_of_rejects hrejected ?_
    rintro p ⟨-, hpairs, -⟩
    obtain ⟨bytes, hbytes, -⟩ := Text.exists_readHex? hpairs
    cases hread.symm.trans hbytes
  | some bytes =>
    obtain ⟨hpairs, hdigits⟩ := Text.readHex?_eq_some_iff.mp hread
    refine (accepts_decodeBytes bytes).congr fun p => ?_
    rw [← hdigits, pointToHex_eq_ok_iff]
    constructor
    · rintro ⟨hp, hencoded⟩
      have hlength : bytes.length = 64 := length_of_encodePoint hencoded
      exact ⟨hp, hlength ▸ hpairs, hencoded⟩
    · rintro ⟨hp, -, hencoded⟩
      exact ⟨hp, hencoded⟩

theorem point_digits_exact :
    (∀ t : Text, Accepts .serialization (pointOfHex (.text t)) fun p =>
      p.isG1Point = true ∧ t.IsHexPairs 64 ∧ pointToHex p = .ok t.withoutBlanks.lowerCase) ∧
    (∀ v : Value, (∀ t, v ≠ .text t) → Rejects .serialization (pointOfHex v)) ∧
    ∀ p : Value, p.isG1Point = true →
      ∃ digits, pointToHex p = .ok digits ∧ pointOfHex (.text digits) = .ok p := by
  refine ⟨accepts_pointOfHex, fun v hv => ?_, fun p hp => ?_⟩
  · unfold pointOfHex
    split
    · next t => exact absurd rfl (hv t)
    · exact rejects_reject rfl rfl
  · obtain ⟨x, rfl⟩ := (isG1Point_iff p).mp hp
    exact ⟨_, pointToHex_ofResidue x, pointOfHex_residueDigits x⟩

theorem point_digits_exact_spaced :
    pointOfHex (.text (0x20 :: Text.ofBytes G1.generator.encode)) = .ok (ofG1 G1.generator) ∧
    Rejects .serialization (pointOfHex .null) := by
  have hread : Text.readHex? (0x20 :: Text.ofBytes G1.generator.encode) = some G1.generator.encode := by
    rw [Text.readHex?_blank rfl, Text.readHex?_ofBytes]
  obtain ⟨hpairs, hdigits⟩ := Text.readHex?_eq_some_iff.mp hread
  have hpoint : pointToHex (ofG1 G1.generator) = .ok (Text.ofBytes G1.generator.encode) :=
    (pointToHex_eq_ok_iff _ _).mpr (encodePoint_ofG1 (by decide))
  rw [hdigits] at hpoint
  exact ⟨((point_digits_exact.1 _).ok_iff _).mpr ⟨by decide, hpairs, hpoint⟩,
    point_digits_exact.2.1 _ nofun⟩

end VectorCommitment
