import VectorCommitment.Curve.Pairing
import VectorCommitment.Value.Points

namespace VectorCommitment.Value

def ofPairing (result : Except PairingFault Target) : Outcome Target :=
  match result with
  | .ok t => .ok t
  | .error cause => refuse (.pairing cause)

def residueCoordinate (v : Value) : Outcome Fp :=
  match v.residue? with
  | some n => .ok (.ofNat n)
  | none => refuse .noField

def residuePoint (p : Value) : Outcome G1 :=
  match p with
  | null => .ok .infinity
  | p => do
    let (x, y) ← p.pair
    let x ← residueCoordinate x
    return .affine x (← residueCoordinate y)

def twistPoint (q : Value) : Outcome G2 :=
  match q with
  | null => .ok .infinity
  | q => do
    match ← q.pair with
    | (quadratic x, quadratic y) => return .affine x y
    | _ => refuse .wrongType

variable (e : PairingMap)

def pairingOfResidues (q p : Value) : Outcome Target := do
  if !(← isOn (quadratic twistConstant) q) then refuse (.pairing .offTwist)
  else if !(← isOn (coordinate 3) p) then refuse (.pairing .offCurve)
  else
    let q ← twistPoint q
    match q, ← residuePoint p with
    | .infinity, _ => return 1
    | _, .infinity => return 1
    | q, p => ofPairing (e q p)

def pairing (q p : Value) : Outcome Target :=
  match q.toG2?, p.toG1? with
  | some q, some p => ofPairing (e.pair q p)
  | _, _ => pairingOfResidues e q p

/-- Multiplies by the pairing of a pair in the order of the mathematical notation. A pair with
infinity in it is passed over, whatever its other member is. -/
def timesPairing (acc : Target) (p q : Value) : Outcome Target :=
  match p, q with
  | null, _ => .ok acc
  | _, null => .ok acc
  | p, q => do return acc * (← pairing e q p)

def pairingProduct (pairs : List (Value × Value)) : Outcome Target :=
  pairs.foldlM (fun acc pair => timesPairing e acc pair.1 pair.2) 1

def pairingProductOf (pairs : Value) : Outcome Target :=
  match pairs.members with
  | .error _ => refuse .wrongType
  | .ok pairs =>
    pairs.foldlM
      (fun acc pair => do
        let (p, q) ← pair.pair
        timesPairing e acc p q)
      1

end VectorCommitment.Value
