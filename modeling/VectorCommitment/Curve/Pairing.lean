import VectorCommitment.Curve.Groups
import VectorCommitment.Field.Target

/-! Pairing maps, of which the optimal ate pairing is one. A point `(x, y)` of the twist stands for
`(x * w ^ 2, y * w ^ 3)` over the target field, so slopes between such points are `w` times slopes
on the twist and a line takes a value with four nonzero coefficients of `w` at most. -/

namespace VectorCommitment

inductive PairingFault where
  | offTwist
  | offCurve
  | lineThroughInfinity
deriving DecidableEq

namespace Pairing

def lift (a : Fp) : Fp2 := ⟨a, 0⟩

def slantValue (slope x y : Fp2) (xt yt : Fp) : Target :=
  .ofParts [-lift yt, slope * lift xt, 0, y - slope * x]

def lineValue : G2 → G2 → Fp → Fp → Except PairingFault Target
  | .affine x₁ y₁, .affine x₂ y₂, xt, yt =>
    if x₁ ≠ x₂ then .ok (slantValue ((y₂ - y₁) / (x₂ - x₁)) x₁ y₁ xt yt)
    else if y₁ = y₂ then .ok (slantValue (Point.tangentSlope x₁ y₁) x₁ y₁ xt yt)
    else .ok (.ofParts [lift xt, 0, -x₁])
  | _, _, _, _ => .error .lineThroughInfinity

def frobeniusFactors : Fp2 × Fp2 :=
  ((⟨9, 1⟩ : Fp2) ^ ((fieldModulus - 1) / 3), (⟨9, 1⟩ : Fp2) ^ ((fieldModulus - 1) / 2))

def frobenius : G2 → G2
  | .infinity => .infinity
  | .affine x y => .affine (x.conj * frobeniusFactors.1) (y.conj * frobeniusFactors.2)

def loopBits : List Bool :=
  ((List.range 64).reverse.map fun k => Nat.testBit 29793968203157093288 k)

def loopStep (q : G2) (xt yt : Fp) (state : Target × G2) (bit : Bool) :
    Except PairingFault (Target × G2) := do
  let (f, r) := state
  let f := f * f * (← lineValue r r xt yt)
  let r := r.double
  if bit then
    return (f * (← lineValue r q xt yt), r + q)
  else
    return (f, r)

def millerLoop (q : G2) (xt yt : Fp) : Except PairingFault Target := do
  let (f, r) ← loopBits.foldlM (loopStep q xt yt) (1, q)
  let q₁ := frobenius q
  let q₂ := -frobenius q₁
  let f := f * (← lineValue r q₁ xt yt)
  return f * (← lineValue (r + q₁) q₂ xt yt)

def finalExponent : Nat := (Nat.pow fieldModulus 12 - 1) / groupOrder

end Pairing

abbrev PairingMap := G2 → G1 → Except PairingFault Target

open Pairing in
def atePairing : PairingMap
  | _, .infinity => .ok 1
  | q, .affine xt yt => do return (← millerLoop q xt yt) ^ finalExponent

namespace PairingMap

variable (e : PairingMap)

def pair (q : G2) (p : G1) : Except PairingFault Target :=
  if !q.isOnTwist then .error .offTwist
  else if !p.isOnCurve then .error .offCurve
  else
    match q, p with
    | .infinity, _ => .ok 1
    | _, .infinity => .ok 1
    | q, p => e q p

def times (acc : Target) : G1 × G2 → Except PairingFault Target
  | (.infinity, _) => .ok acc
  | (_, .infinity) => .ok acc
  | (p, q) => do return acc * (← e.pair q p)

def product (pairs : List (G1 × G2)) : Except PairingFault Target := pairs.foldlM (times e) 1

end PairingMap

end VectorCommitment
