import VectorCommitment.Curve.Groups
import VectorCommitment.Value.Coordinates

/-! Values as points of either source group. What is no point of one group is found out only where
its coordinates are needed. -/

namespace VectorCommitment

namespace Value

def ofG1 : G1 → Value
  | .infinity => null
  | .affine x y => tuple [coordinate x, coordinate y]

def ofG2 : G2 → Value
  | .infinity => null
  | .affine x y => tuple [quadratic x, quadratic y]

def toG1? : Value → Option G1
  | null => some .infinity
  | tuple [coordinate x, coordinate y] => some (.affine x y)
  | _ => none

def toG2? : Value → Option G2
  | null => some .infinity
  | tuple [quadratic x, quadratic y] => some (.affine x y)
  | _ => none

theorem toG1?_ofG1 (p : G1) : (ofG1 p).toG1? = some p := by
  cases p <;> rfl

theorem toG2?_ofG2 (q : G2) : (ofG2 q).toG2? = some q := by
  cases q <;> rfl

def curvePoint? (v : Value) : Option G1 := v.toG1?.filter (·.isOnCurve)

def isG1Point (v : Value) : Bool := v.curvePoint?.isSome

def isG2Point (v : Value) : Bool := v.toG2?.any (·.isOnTwist)

def addAny (p q : Value) : Outcome Value := do
  let (x₁, y₁) ← p.pair
  let (x₂, y₂) ← q.pair
  addCoordinates x₁ y₁ x₂ y₂

def addPoints (p q : Value) : Outcome Value :=
  match p, q with
  | null, q => .ok q
  | p, null => .ok p
  | p, q =>
    match p.toG1?, q.toG1?, p.toG2?, q.toG2? with
    | some p, some q, _, _ => .ok (ofG1 (p + q))
    | _, _, some p, some q => .ok (ofG2 (p + q))
    | _, _, _, _ => addAny p q

def doublePoint (p : Value) : Outcome Value :=
  match p.toG1?, p.toG2? with
  | some p, _ => .ok (ofG1 p.double)
  | _, some p => .ok (ofG2 p.double)
  | _, _ => do
    let (x, y) ← p.pair
    doubleCoordinates x y

def negPoint (p : Value) : Outcome Value :=
  match p with
  | null => .ok null
  | p => do
    let (x, y) ← p.pair
    return tuple [x, ← y.neg]

/-- As `Point.multipleWithin`. The multiples by zero and one do not look at the coordinates. -/
def multipleWithin : Nat → Nat → Value → Outcome Value
  | 0, _, _ => .ok null
  | budget + 1, n, p =>
    if n = 0 then .ok null
    else if n = 1 then .ok p
    else do
      let rest ← multipleWithin budget (n / 2) (← doublePoint p)
      if n % 2 = 1 then addPoints rest p else return rest

def multiplePoint (n : Nat) (p : Value) : Outcome Value := multipleWithin n n p

inductive Factor where
  | whole (n : Nat)
  | fraction (half : Nat)
  | undefined
  | filled
deriving DecidableEq

def Factor.ofFloat (x : Binary64) : Factor :=
  match x.remainder groupOrder with
  | .finite _ mantissa exponent =>
    let (num, den) := Binary64.magnitude mantissa exponent
    if num % den = 0 then .whole (num / den) else .fraction (num / (2 * den))
  | _ => .undefined

def fill (kind : TemplateKind) (number : Nat) (t : Text) : Outcome Text :=
  match Template.fill kind number t with
  | .ok t => .ok t
  | .error cause => refuse (.template cause)

/-- What a text multiplies by: it is taken for a template for the group order, and the result for
one for the number two. -/
def Factor.ofTemplate (kind : TemplateKind) (t : Text) : Outcome Factor := do
  let _ ← fill kind 2 (← fill kind groupOrder t)
  return .filled

def factor : Value → Outcome Factor
  | scalar residue => .ok (.whole (residue % groupOrder))
  | int i => .ok (.whole (i % groupOrder).toNat)
  | bool b => .ok (.whole (if b then 1 else 0))
  | float x => .ok (.ofFloat x)
  | text t => Factor.ofTemplate .characters t
  | bytes bs | byteArray bs => Factor.ofTemplate .bytes (bs.map (·.toNat))
  | _ => refuse .wrongType

def mulPoint (p s : Value) : Outcome Value :=
  match p with
  | null => .ok null
  | p => do
    match ← s.factor with
    | .whole n => multiplePoint n p
    | .fraction half => addPoints (← multiplePoint half (← doublePoint p)) p
    | .undefined =>
      let _ ← doublePoint p
      refuse .undefinedNumber
    | .filled =>
      let _ ← doublePoint p
      refuse .wrongType

end Value

end VectorCommitment
