import VectorCommitment.Curve.MultiScalar
import VectorCommitment.Value.Points

namespace VectorCommitment.Value

abbrev PointTerm := Value × Nat

def contributing : List Value → List Value → Outcome (List PointTerm)
  | p :: ps, s :: ss => do
    let n := ((← s.toInt) % groupOrder).toNat
    let rest ← contributing ps ss
    return match p with
      | null => rest
      | p => if n = 0 then rest else (p, n) :: rest
  | _, _ => .ok []

def sumOneByOne (terms : List PointTerm) : Outcome Value :=
  terms.foldlM (fun acc term => do addPoints acc (← multiplePoint term.2 term.1)) null

def sumInBuckets (terms : List PointTerm) : Outcome Value :=
  MultiScalar.bucketSum addPoints doublePoint null terms

def sumOfMultiples (points scalars : List Value) : Outcome Value := do
  if points.length ≠ scalars.length then
    refuse (.lengthsDiffer points.length scalars.length)
  else
    let terms ← contributing points scalars
    if terms.length ≤ 2 then sumOneByOne terms else sumInBuckets terms

def rowOf (v : Value) : Outcome (List Value) :=
  match v.members with
  | .ok items => .ok items
  | .error _ => refuse .wrongType

def multiScalar (points scalars : Value) : Outcome Value := do
  sumOfMultiples (← points.rowOf) (← scalars.rowOf)

end VectorCommitment.Value
