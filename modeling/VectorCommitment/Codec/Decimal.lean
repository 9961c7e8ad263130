import VectorCommitment.Scheme.Parameters
import VectorCommitment.Value.Points

/-! Scalars, points, target elements and records as plain data with decimal numerals. Nothing is
reduced or cut on the way, except that scalars are taken modulo the group order. -/

namespace VectorCommitment

namespace Codec

def numeral (v : Value) : Outcome Value := do return .text (← Value.writeInt (← v.toInt))

def coordinateNumeral (x : Fp) : Value := .text (Text.ofNat x.val)

def readInteger (other : Value → Rejection) : Value → Outcome Int
  | .int i => .ok i
  | .text t =>
    match Text.readInt t with
    | .ok i => .ok i
    | .error .form => reject (other (.text t))
    | .error (.tooLong digits) => refuse (.tooManyDigits digits)
  | v => reject (other v)

def readCoordinate (v : Value) : Outcome Fp := do
  let i ← readInteger .notCoordinateNumber v
  if 0 ≤ i ∧ i < fieldModulus then return .ofNat i.toNat else reject .coordinateOutside

def readPair (other : Value → Rejection) : Value → Outcome (Value × Value)
  | .list [a, b] => .ok (a, b)
  | v => reject (other v)

def writeScalar (v : Value) : Outcome Value := numeral v

def readScalar (v : Value) : Outcome Nat := do
  return ((← readInteger .notScalarNumber v) % groupOrder).toNat

def writeScalars (v : Value) : Outcome Value := do
  return .list (← (← readEntries v).mapM writeScalar)

def readScalars : Value → Outcome (List Nat)
  | .list items => items.mapM readScalar
  | _ => reject .scalarsNotList

def writeG1 (p : Value) : Outcome Value :=
  match p with
  | .null => .ok .null
  | p => do
    let (x, y) ← p.pair
    let x ← numeral x
    return .list [x, ← numeral y]

def readG1 (data : Value) : Outcome G1 :=
  match data with
  | .null => .ok .infinity
  | data => do
    let (x, y) ← readPair .curvePointNotPair data
    let x ← readCoordinate x
    let y ← readCoordinate y
    let p : G1 := .affine x y
    if p.isOnCurve then return p else reject .pointOffCurve

def writeCoefficients : Value → Outcome Value
  | .quadratic x => .ok (.list [coordinateNumeral x.re, coordinateNumeral x.im])
  | .target x => .ok (.list (x.coeffs.map coordinateNumeral))
  | _ => refuse .noField

def writeG2 (p : Value) : Outcome Value :=
  match p with
  | .null => .ok .null
  | p => do return .list (← (← readEntries p).mapM writeCoefficients)

def readQuadratic (data : Value) : Outcome Fp2 := do
  let (re, im) ← readPair .quadraticNotPair data
  let re ← readCoordinate re
  return ⟨re, ← readCoordinate im⟩

def readG2 (data : Value) : Outcome G2 :=
  match data with
  | .null => .ok .infinity
  | data => do
    let (x, y) ← readPair .twistPointNotPair data
    let x ← readQuadratic x
    let y ← readQuadratic y
    let q : G2 := .affine x y
    if q.isOnTwist then return q else reject .pointOffTwist

def readTarget : Value → Outcome Target
  | .list items => do
    if items.length ≠ 12 then reject (.targetNotTwelve (.inl items.length))
    else
      let coeffs ← items.mapM readCoordinate
      if h : coeffs.length = 12 then return ⟨coeffs, h⟩
      else reject (.targetNotTwelve (.inl coeffs.length))
  | v => reject (.targetNotTwelve (.inr v.typeName))

def readField {α : Type} (read : Value → Outcome α) (data : Value) (field : String) :
    Outcome (List α) := do
  (← readEntries (← data.item (.text field))).mapM read

def writeProver (v : Value) : Outcome Value := do
  let capacity ← v.capacityField
  let g ← v.proverEntries
  return .dict [(Text.ofString "capacity", .int capacity),
    (Text.ofString "g", .list (← g.mapM writeG1))]

def readProver (data : Value) : Outcome Value := do
  let g ← readField readG1 data "g"
  proverParam (← data.item (.text "capacity")) (.list (g.map .ofG1))

def writeVerifier (v : Value) : Outcome Value := do
  let capacity ← v.capacityField
  let (h, t) ← v.verifierEntries
  let h ← h.mapM writeG2
  return .dict [(Text.ofString "capacity", .int capacity), (Text.ofString "h", .list h),
    (Text.ofString "t", ← writeCoefficients t)]

def readVerifier (data : Value) : Outcome Value := do
  let h ← readField readG2 data "h"
  let capacity ← data.item (.text "capacity")
  let t ← readTarget (← data.item (.text "t"))
  verifierParam capacity (.list (h.map .ofG2)) (.target t)

end Codec

end VectorCommitment
