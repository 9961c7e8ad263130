import VectorCommitment.Curve.Point
import VectorCommitment.Field.Quadratic

/-! The two source groups: points of `y ^ 2 = x ^ 3 + 3` over the coordinate field, and points of
its twist `y ^ 2 = x ^ 3 + 3 / (9 + i)` over the quadratic extension. -/

namespace VectorCommitment

abbrev G1 := Point Fp

abbrev G2 := Point Fp2

def Point.isOn {F : Type} [Sub F] [Mul F] [DecidableEq F] (b : F) : Point F → Bool
  | .infinity => true
  | .affine x y => y * y - x * x * x = b

def G1.generator : G1 := .affine 1 2

def G2.generator : G2 :=
  .affine
    ⟨.ofNat 10857046999023057135944570762232829481370756359578518086990519993285655852781,
     .ofNat 11559732032986387107991004021392285783925812861821192530917403151452391805634⟩
    ⟨.ofNat 8495653923123431417604973247489272438418190587263600148770280649306958101930,
     .ofNat 4082367875863433681332203403145435568316851327593401208105741076214120093531⟩

def G1.isOnCurve (p : G1) : Bool := p.isOn 3

def twistConstant : Fp2 := ⟨3, 0⟩ / ⟨9, 1⟩

def G2.isOnTwist (q : G2) : Bool := q.isOn twistConstant

end VectorCommitment
