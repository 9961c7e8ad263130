import VectorCommitment.Codec.Decimal
import VectorCommitment.Proofs.Curve.Groups
import VectorCommitment.Proofs.Failure.Outcome
import VectorCommitment.Proofs.Scheme.Parameters
import VectorCommitment.Proofs.Text.Decimal

namespace VectorCommitment

open Point Value

namespace Codec

lemma isWritable_of_lt {n : ℕ} (hn : n < fieldModulus) : Text.isWritable n = true :=
  decide_eq_true (hn.trans (by decide +kernel))

lemma isWritable_of_lt_groupOrder {n : ℕ} (hn : n < groupOrder) : Text.isWritable n = true :=
  isWritable_of_lt (hn.trans groupOrder_lt_fieldModulus)

lemma writeInt_natCast {n : ℕ} (hn : Text.isWritable n = true) :
    writeInt n = .ok (Text.ofNat n) := by
  rw [writeInt, if_pos hn]
  rfl

lemma readInteger_ofNat {n : ℕ} (hn : Text.isWritable n = true) (other : Value → Rejection) :
    readInteger other (.text (Text.ofNat n)) = .ok (n : ℤ) := by
  rw [readInteger, Text.readInt_ofNat hn]

def scalarData (n : ℕ) : Value := .text (Text.ofNat n)

lemma writeScalar_residue {n : ℕ} (hn : Text.isWritable n = true) :
    writeScalar (.scalar n) = .ok (scalarData n) := by
  simp only [writeScalar, numeral, toInt, bind, Except.bind, writeInt_natCast hn]
  rfl

lemma writeScalar_scalar {n : ℕ} (hn : n < groupOrder) :
    writeScalar (.scalar n) = .ok (scalarData n) :=
  writeScalar_residue (isWritable_of_lt_groupOrder hn)

lemma readScalar_residue {n : ℕ} (hn : Text.isWritable n = true) :
    readScalar (scalarData n) = .ok (n % groupOrder) := by
  have hresidue : ((n : ℤ) % groupOrder).toNat = n % groupOrder := by
    rw [← Int.natCast_emod, Int.toNat_natCast]
  rw [readScalar, scalarData, readInteger_ofNat hn]
  exact congrArg Except.ok hresidue

lemma readScalar_scalarData {n : ℕ} (hn : n < groupOrder) : readScalar (scalarData n) = .ok n := by
  rw [readScalar_residue (isWritable_of_lt_groupOrder hn), Nat.mod_eq_of_lt hn]

lemma lt_of_readScalar {v : Value} {unit : ℕ} (hread : readScalar v = .ok unit) :
    unit < groupOrder := by
  obtain ⟨i, -, hread⟩ := Outcome.bind_eq_ok hread
  rw [← Except.ok.inj hread]
  exact (Int.toNat_lt_of_ne_zero (by decide)).mpr (Int.emod_lt_of_pos i (by decide))

lemma lt_of_readScalars {data : Value} {units : List ℕ} (h : readScalars data = .ok units) :
    ∀ unit ∈ units, unit < groupOrder := by
  unfold readScalars at h
  split at h
  · exact Outcome.forall_of_mapM (fun _ _ hread => lt_of_readScalar hread) h
  · exact absurd h (Outcome.reject_ne_ok _ _)

lemma writeScalars_residues {units : List ℕ}
    (hunits : ∀ unit ∈ units, Text.isWritable unit = true) :
    writeScalars (.list (units.map .scalar)) = .ok (.list (units.map scalarData)) := by
  have hscalars : (units.map scalar).mapM writeScalar = .ok (units.map scalarData) := by
    rw [List.mapM_map]
    exact Outcome.mapM_eq_ok fun unit hunit => writeScalar_residue (hunits unit hunit)
  change ((units.map scalar).mapM writeScalar >>= _) = _
  rw [hscalars]
  rfl

lemma writeScalars_eq {units : List ℕ} (hunits : ∀ unit ∈ units, unit < groupOrder) :
    writeScalars (.list (units.map .scalar)) = .ok (.list (units.map scalarData)) :=
  writeScalars_residues fun unit hunit => isWritable_of_lt_groupOrder (hunits unit hunit)

lemma readScalars_residues {units : List ℕ}
    (hunits : ∀ unit ∈ units, Text.isWritable unit = true) :
    readScalars (.list (units.map scalarData)) = .ok (units.map (· % groupOrder)) := by
  rw [readScalars, List.mapM_map]
  exact Outcome.mapM_eq_ok fun unit hunit => readScalar_residue (hunits unit hunit)

lemma map_mod_eq_iff (units : List ℕ) :
    units.map (· % groupOrder) = units ↔ ∀ unit ∈ units, unit < groupOrder := by
  induction units with
  | nil => simp
  | cons unit units ih => simp [ih, Nat.mod_eq_iff_lt groupOrder_pos.ne']

lemma readScalars_eq {units : List ℕ} (hunits : ∀ unit ∈ units, unit < groupOrder) :
    readScalars (.list (units.map scalarData)) = .ok units := by
  have hwritable : ∀ unit ∈ units, Text.isWritable unit = true :=
    fun unit hunit => isWritable_of_lt_groupOrder (hunits unit hunit)
  rw [readScalars_residues hwritable, (map_mod_eq_iff units).mpr hunits]

lemma numeral_coordinate (x : Fp) : numeral (.coordinate x) = .ok (coordinateNumeral x) := by
  simp only [numeral, toInt, bind, Except.bind, writeInt_natCast (isWritable_of_lt x.val_lt)]
  rfl

lemma readCoordinate_coordinateNumeral (x : Fp) :
    readCoordinate (coordinateNumeral x) = .ok x := by
  have hlt := x.val_lt
  rw [readCoordinate, coordinateNumeral, readInteger_ofNat (isWritable_of_lt hlt)]
  have hrange : 0 ≤ (x.val : ℤ) ∧ (x.val : ℤ) < fieldModulus :=
    ⟨Int.natCast_nonneg _, Int.ofNat_lt.mpr hlt⟩
  rw [Outcome.ok_bind, if_pos hrange, Int.toNat_natCast, Fp.ofNat_val]
  rfl

def g1Data : G1 → Value
  | .infinity => .null
  | .affine x y => .list [coordinateNumeral x, coordinateNumeral y]

lemma writeG1_ofG1 (p : G1) : writeG1 (.ofG1 p) = .ok (g1Data p) := by
  cases p with
  | infinity => rfl
  | affine x y =>
    have hpair : (ofG1 (.affine x y)).pair = .ok (.coordinate x, .coordinate y) := rfl
    rw [writeG1, hpair]
    · simp only [bind, Except.bind, numeral_coordinate]
      rfl
    · exact nofun

lemma readG1_g1Data {p : G1} (hon : p.isOnCurve = true) : readG1 (g1Data p) = .ok p := by
  cases p with
  | infinity => rfl
  | affine x y =>
    change (readCoordinate (coordinateNumeral x) >>= _) = _
    rw [readCoordinate_coordinateNumeral]
    change (readCoordinate (coordinateNumeral y) >>= _) = _
    rw [readCoordinate_coordinateNumeral]
    exact if_pos hon

lemma readG1_multiple (x : ZMod groupOrder) :
    readG1 (g1Data (G1.generator.multiple x)) = .ok (G1.generator.multiple x) :=
  readG1_g1Data (isOn_multiple x)

lemma isOnCurve_of_readG1 {data : Value} {p : G1} (hread : readG1 data = .ok p) :
    p.isOnCurve = true := by
  unfold readG1 at hread
  split at hread
  · obtain rfl := Except.ok.inj hread
    rfl
  · obtain ⟨⟨x, y⟩, -, hread⟩ := Outcome.bind_eq_ok hread
    obtain ⟨x, -, hread⟩ := Outcome.bind_eq_ok hread
    obtain ⟨y, -, hread⟩ := Outcome.bind_eq_ok hread
    dsimp only at hread
    split at hread
    · next hon => rwa [← Except.ok.inj hread]
    · exact absurd hread (Outcome.reject_ne_ok _ _)

def quadraticData (x : Fp2) : Value := .list [coordinateNumeral x.re, coordinateNumeral x.im]

lemma readQuadratic_quadraticData (x : Fp2) : readQuadratic (quadraticData x) = .ok x := by
  change (readCoordinate (coordinateNumeral x.re) >>= _) = _
  rw [readCoordinate_coordinateNumeral]
  change (readCoordinate (coordinateNumeral x.im) >>= _) = _
  rw [readCoordinate_coordinateNumeral]
  rfl

def g2Data : G2 → Value
  | .infinity => .null
  | .affine x y => .list [quadraticData x, quadraticData y]

lemma writeG2_ofG2 (q : G2) : writeG2 (.ofG2 q) = .ok (g2Data q) := by
  cases q <;> rfl

lemma readG2_g2Data {q : G2} (hon : q.isOnTwist = true) : readG2 (g2Data q) = .ok q := by
  cases q with
  | infinity => rfl
  | affine x y =>
    change (readQuadratic (quadraticData x) >>= _) = _
    rw [readQuadratic_quadraticData]
    change (readQuadratic (quadraticData y) >>= _) = _
    rw [readQuadratic_quadraticData]
    exact if_pos hon

def targetData (t : Target) : Value := .list (t.coeffs.map coordinateNumeral)

lemma readTarget_targetData (t : Target) : readTarget (targetData t) = .ok t := by
  have hcoeffs : (t.coeffs.map coordinateNumeral).mapM readCoordinate = .ok t.coeffs := by
    rw [List.mapM_map]
    exact (Outcome.mapM_eq_ok fun x _ => readCoordinate_coordinateNumeral x).trans
      (congrArg _ (List.map_id _))
  have hlength : (t.coeffs.map coordinateNumeral).length = 12 := by
    rw [List.length_map, t.length_eq]
  rw [targetData, readTarget, if_neg (not_not.mpr hlength), hcoeffs]
  exact dif_pos t.length_eq

def proverData (capacity : ℕ) (points : List G1) : Value :=
  .dict [(Text.ofString "capacity", .int capacity), (Text.ofString "g", .list (points.map g1Data))]

lemma writeProver_prover (capacity : ℕ) (points : List G1) :
    writeProver (.prover capacity (points.map ofG1)) = .ok (proverData capacity points) := by
  have hpoints : (points.map ofG1).mapM writeG1 = .ok (points.map g1Data) := by
    rw [List.mapM_map]
    exact Outcome.mapM_eq_ok fun p _ => writeG1_ofG1 p
  simp only [writeProver, capacityField, proverEntries, bind, Except.bind, hpoints]
  rfl

lemma readField_list {α β : Type} {read : Value → Outcome α} {data : Value} {field : String}
    {write : β → Value} {f : β → α} {items : List β}
    (hitem : data.item (.text field) = .ok (.list (items.map write)))
    (hread : ∀ item ∈ items, read (write item) = .ok (f item)) :
    readField read data field = .ok (items.map f) := by
  rw [readField, hitem]
  change (items.map write).mapM read = _
  rw [List.mapM_map]
  exact Outcome.mapM_eq_ok hread

lemma readProver_proverData {capacity : ℕ} {points : List G1} (hcapacity : 1 ≤ capacity)
    (hlength : 2 * capacity - 1 ≤ points.length) (hon : ∀ p ∈ points, p.isOnCurve = true) :
    readProver (proverData capacity points) = .ok (.prover capacity (points.map ofG1)) := by
  have hfield : readField readG1 (proverData capacity points) "g" = .ok points :=
    (readField_list rfl fun p hp => readG1_g1Data (hon p hp)).trans (congrArg _ (List.map_id _))
  rw [readProver, hfield]
  exact proverParam_list rfl hcapacity (by simpa using hlength)

lemma of_readProver {data prover : Value} (hread : readProver data = .ok prover) :
    ∃ (capacity : ℕ) (points : List G1), prover = .prover capacity (points.map ofG1) ∧
      ∀ p ∈ points, p.isOnCurve = true := by
  obtain ⟨points, hfield, hread⟩ := Outcome.bind_eq_ok hread
  obtain ⟨found, -, hread⟩ := Outcome.bind_eq_ok hread
  obtain ⟨capacity, hprover, -⟩ := of_proverParam hread
  obtain ⟨entries, -, hpoints⟩ := Outcome.bind_eq_ok hfield
  obtain ⟨items, -, hpoints⟩ := Outcome.bind_eq_ok hpoints
  exact ⟨capacity, points, hprover,
    Outcome.forall_of_mapM (fun item p hp => isOnCurve_of_readG1 hp) hpoints⟩

def verifierData (capacity : ℕ) (points : List G2) (t : Target) : Value :=
  .dict [(Text.ofString "capacity", .int capacity), (Text.ofString "h", .list (points.map g2Data)),
    (Text.ofString "t", targetData t)]

lemma writeVerifier_verifier (capacity : ℕ) (points : List G2) (t : Target) :
    writeVerifier (.verifier capacity (points.map ofG2) (.target t)) =
      .ok (verifierData capacity points t) := by
  have hpoints : (points.map ofG2).mapM writeG2 = .ok (points.map g2Data) := by
    rw [List.mapM_map]
    exact Outcome.mapM_eq_ok fun q _ => writeG2_ofG2 q
  simp only [writeVerifier, capacityField, verifierEntries, bind, Except.bind, hpoints]
  rfl

lemma readVerifier_verifierData {capacity : ℕ} {points : List G2} {t : Target}
    (hcapacity : 1 ≤ capacity) (hlength : capacity ≤ points.length)
    (hon : ∀ q ∈ points, q.isOnTwist = true) :
    readVerifier (verifierData capacity points t) =
      .ok (.verifier capacity (points.map ofG2) (.target t)) := by
  have hfield : readField readG2 (verifierData capacity points t) "h" = .ok points :=
    (readField_list rfl fun q hq => readG2_g2Data (hon q hq)).trans (congrArg _ (List.map_id _))
  rw [readVerifier, hfield]
  change (readTarget (targetData t) >>= _) = _
  rw [readTarget_targetData]
  exact verifierParam_list rfl hcapacity (by simpa using hlength)

end Codec

end VectorCommitment
