import VectorCommitment.Codec.Point
import VectorCommitment.Proofs.Codec.Decimal
import VectorCommitment.Proofs.Curve.Groups
import VectorCommitment.Proofs.Failure.Acceptance
import VectorCommitment.Proofs.Text.Hex
import VectorCommitment.Proofs.Value.Points

namespace VectorCommitment

open Point Value

namespace G1

lemma ofNat_bigEndian (x : Fp) : Fp.ofNat (ofBigEndian (bigEndian 32 x.val)) = x := by
  have hlt : x.val < 256 ^ 32 := x.val_lt.trans (by decide)
  rw [ofBigEndian_bigEndian, Nat.mod_eq_of_lt hlt, Fp.ofNat_val]

lemma ofBigEndian_lt (x : Fp) : ofBigEndian (bigEndian 32 x.val) < fieldModulus := by
  have hlt : x.val < 256 ^ 32 := x.val_lt.trans (by decide)
  rw [ofBigEndian_bigEndian, Nat.mod_eq_of_lt hlt]
  exact x.val_lt

lemma length_encode (p : G1) : p.encode.length = encodedSize := by
  cases p with
  | infinity => exact List.length_replicate
  | affine x y => rw [encode, List.length_append, length_bigEndian, length_bigEndian]; rfl

lemma encode_affine_ne {x y : Fp} (hon : isOnCurve (.affine x y) = true) :
    encode (.affine x y) ≠ List.replicate encodedSize 0 := by
  intro hzeros
  have hy : bigEndian 32 y.val = List.replicate 32 0 := by
    have hdrop := congrArg (List.drop 32) hzeros
    rwa [encode, List.drop_left' (length_bigEndian 32 x.val), List.drop_replicate] at hdrop
  have hzero : y = 0 := by
    rw [← ofNat_bigEndian y, hy]
    rfl
  exact height_ne_zero (b := (3 : Fp)) (of_decide_eq_true hon) hzero

lemma decode_encode {p : G1} (hon : p.isOnCurve = true) : decode p.encode = .ok p := by
  rw [decode, if_neg (not_not.mpr (length_encode p))]
  cases p with
  | infinity => exact if_pos rfl
  | affine x y =>
    have htake : (encode (.affine x y)).take 32 = bigEndian 32 x.val :=
      List.take_left' (length_bigEndian 32 x.val)
    have hdrop : (encode (.affine x y)).drop 32 = bigEndian 32 y.val :=
      List.drop_left' (length_bigEndian 32 x.val)
    rw [if_neg (encode_affine_ne hon), htake, hdrop]
    have hrange : ¬(ofBigEndian (bigEndian 32 x.val) ≥ fieldModulus ∨
        ofBigEndian (bigEndian 32 y.val) ≥ fieldModulus) := by
      have hx := ofBigEndian_lt x
      have hy := ofBigEndian_lt y
      omega
    simp only [if_neg hrange, ofNat_bigEndian]
    exact if_pos hon

lemma encode_ofBigEndian {bytes : List UInt8} (hlength : bytes.length = encodedSize)
    (hx : ofBigEndian (bytes.take 32) < fieldModulus)
    (hy : ofBigEndian (bytes.drop 32) < fieldModulus) :
    encode (.affine (.ofNat (ofBigEndian (bytes.take 32))) (.ofNat (ofBigEndian (bytes.drop 32)))) =
      bytes := by
  have htake : (bytes.take 32).length = 32 := by rw [List.length_take, hlength]; rfl
  have hdrop : (bytes.drop 32).length = 32 := by rw [List.length_drop, hlength]; rfl
  have hfirst := bigEndian_ofBigEndian (bytes.take 32)
  have hsecond := bigEndian_ofBigEndian (bytes.drop 32)
  rw [htake] at hfirst
  rw [hdrop] at hsecond
  rw [encode, Fp.val_ofNat, Fp.val_ofNat, Nat.mod_eq_of_lt hx, Nat.mod_eq_of_lt hy, hfirst, hsecond,
    List.take_append_drop]

lemma decode_cases (bytes : List UInt8) :
    (∃ p, decode bytes = .ok p ∧ p.isOnCurve = true ∧ p.encode = bytes) ∨
      ∃ cause : Rejection, decode bytes = .error cause ∧ cause.isWritable = true ∧
        cause.kind = .serialization := by
  unfold decode
  dsimp only
  split
  · exact Or.inr ⟨_, rfl, rfl, rfl⟩
  · next hlength =>
    split
    · next hzeros => exact Or.inl ⟨_, rfl, rfl, hzeros.symm⟩
    · split
      · exact Or.inr ⟨_, rfl, rfl, rfl⟩
      · next hrange =>
        obtain ⟨hx, hy⟩ := not_or.mp hrange
        split
        · next hon =>
          exact Or.inl ⟨_, rfl, hon, encode_ofBigEndian (not_not.mp hlength) (Nat.not_le.mp hx)
            (Nat.not_le.mp hy)⟩
        · exact Or.inr ⟨_, rfl, rfl, rfl⟩

end G1

lemma encodePoint_ofG1 {p : G1} (hon : p.isOnCurve = true) :
    encodePoint (.ofG1 p) = .ok p.encode := by
  have hpoint : (ofG1 p).curvePoint? = some p := by
    rw [curvePoint?, toG1?_ofG1]
    exact Option.filter_eq_some_iff.mpr ⟨rfl, hon⟩
  rw [encodePoint, hpoint]

def residueDigits (x : ZMod groupOrder) : Text := Text.ofBytes (G1.encode (G1.generator.multiple x))

lemma pointToHex_ofResidue (x : ZMod groupOrder) :
    pointToHex (ofResidue x) = .ok (residueDigits x) := by
  rw [pointToHex, ofResidue, encodePoint_ofG1 (isOn_multiple x)]
  rfl

lemma pointToHex_multiple (x : ZMod groupOrder) :
    pointToHex (.ofG1 (G1.generator.multiple x)) = .ok (residueDigits x) :=
  pointToHex_ofResidue x

lemma pointOfHex_residueDigits (x : ZMod groupOrder) :
    pointOfHex (.text (residueDigits x)) = .ok (ofResidue x) := by
  have hon : G1.isOnCurve (G1.generator.multiple x) = true := isOn_multiple x
  rw [pointOfHex, residueDigits, Text.readHex?_ofBytes]
  change decodeBytes (G1.encode (G1.generator.multiple x)) = _
  rw [decodeBytes, G1.decode_encode hon]
  rfl

lemma exists_pointShort (p : G1) : ∃ shown, pointShort (.ofG1 p) = .ok shown := by
  cases p with
  | infinity => exact ⟨_, rfl⟩
  | affine x y =>
    have hitem : (ofG1 (.affine x y)).item (.int 0) = .ok (.coordinate x) := rfl
    have hint : (Value.coordinate x).toInt = .ok (x.val : ℤ) := rfl
    rw [pointShort, hitem, Outcome.ok_bind, hint, Outcome.ok_bind,
      Codec.writeInt_natCast (Codec.isWritable_of_lt x.val_lt)]
    · exact ⟨_, rfl⟩
    · intro hnull
      cases hnull

lemma accepts_decodeBytes (bytes : List UInt8) :
    Outcome.Accepts .serialization (decodeBytes bytes) fun p =>
      p.isG1Point = true ∧ encodePoint p = .ok bytes := by
  have hunique : ∀ p : Value, p.isG1Point = true ∧ encodePoint p = .ok bytes →
      decodeBytes bytes = .ok p := by
    rintro p ⟨hp, hencoded⟩
    obtain ⟨q, hon, rfl⟩ := exists_of_isG1Point hp
    rw [encodePoint_ofG1 hon] at hencoded
    rw [← Except.ok.inj hencoded, decodeBytes, G1.decode_encode hon]
  rcases G1.decode_cases bytes with ⟨q, hq, hon, hencode⟩ | ⟨cause, hcause, hwritable, hkind⟩
  · have hok : decodeBytes bytes = .ok (.ofG1 q) := by rw [decodeBytes, hq]
    refine Outcome.accepts_of_unique hok ?_ fun p hp =>
      Except.ok.inj ((hunique p hp).symm.trans hok)
    rw [isG1Point_ofG1, encodePoint_ofG1 hon, hencode]
    exact ⟨hon, rfl⟩
  · have hrejected : decodeBytes bytes = reject cause := by rw [decodeBytes, hcause]
    refine Outcome.accepts_of_rejects ?_ fun p hp => ?_
    · rw [hrejected]
      exact Outcome.rejects_reject hkind hwritable
    · exact Outcome.reject_ne_ok cause p (hrejected.symm.trans (hunique p hp))

end VectorCommitment
