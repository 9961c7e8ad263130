import VectorCommitment.Number.Binary64

namespace VectorCommitment.Binary64

def ofInt? (i : Int) : Option Binary64 :=
  match ofQuotient (i < 0) i.natAbs 1 with
  | .infinite _ => none
  | x => some x

def ofRatio? (num den : Int) : Option Binary64 :=
  match ofQuotient ((num < 0) != (den < 0)) num.natAbs den.natAbs with
  | .infinite _ => none
  | x => some x

def neg : Binary64 → Binary64
  | .finite negative mantissa exponent => .finite (!negative) mantissa exponent
  | .infinite negative => .infinite (!negative)
  | .undefined _ => .undefined none

def signed (negative : Bool) (mantissa : Nat) (exponent : Int) : Int × Nat :=
  let (num, den) := magnitude mantissa exponent
  (if negative then -(num : Int) else num, den)

def add : Binary64 → Binary64 → Binary64
  | .undefined _, _ => .undefined none
  | _, .undefined _ => .undefined none
  | .infinite s, .infinite t => if s = t then .infinite s else .undefined none
  | .infinite s, _ => .infinite s
  | _, .infinite t => .infinite t
  | .finite s m i, .finite t n j =>
    let (a, b) := signed s m i
    let (c, d) := signed t n j
    let num := a * d + c * b
    ofQuotient (if num = 0 then s && t else num < 0) num.natAbs (b * d)

def sub (x y : Binary64) : Binary64 := x.add y.neg

def isZero : Binary64 → Bool
  | .finite _ mantissa _ => mantissa = 0
  | _ => false

def isNegative : Binary64 → Bool
  | .finite negative .. => negative
  | .infinite negative => negative
  | .undefined _ => false

def mul : Binary64 → Binary64 → Binary64
  | .finite s m i, .finite t n j =>
    let (a, b) := magnitude m i
    let (c, d) := magnitude n j
    ofQuotient (s != t) (a * c) (b * d)
  | x, y =>
    if x.isUndefined || y.isUndefined || x.isZero || y.isZero then .undefined none
    else .infinite (x.isNegative != y.isNegative)

def div? (x y : Binary64) : Option Binary64 :=
  if y.isZero then none
  else
    match x, y with
    | .finite s m i, .finite t n j =>
      let (a, b) := magnitude m i
      let (c, d) := magnitude n j
      some (ofQuotient (s != t) (a * d) (b * c))
    | .finite s .., .infinite t => some (ofQuotient (s != t) 0 1)
    | .infinite s, .finite t .. => some (.infinite (s != t))
    | _, _ => some (.undefined none)

def mulAdd (x y z : Binary64) : Binary64 :=
  match x, y, z with
  | .finite s m i, .finite t n j, .finite u k l =>
    let (a, b) := signed (s != t) (m * n) (i + j)
    let (c, d) := signed u k l
    let num := a * d + c * b
    ofQuotient (if num = 0 then (s != t) && u else num < 0) num.natAbs (b * d)
  | x, y, z => (x.mul y).add z

instance : Add Binary64 := ⟨add⟩

instance : Sub Binary64 := ⟨sub⟩

instance : Mul Binary64 := ⟨mul⟩

instance : Neg Binary64 := ⟨neg⟩

def isWithin (x : Binary64) (num den : Nat) : Bool :=
  match x with
  | .finite _ mantissa exponent =>
    let (n, d) := magnitude mantissa exponent
    n * den < num * d
  | _ => false

end VectorCommitment.Binary64
