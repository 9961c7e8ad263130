import VectorCommitment.Field.Target
import VectorCommitment.Number.Power
import VectorCommitment.Value.Conversion
import VectorCommitment.Value.Equality

/-! Arithmetic on values. A field element goes together with a field element of either modulus, by
its stored residue, and the result is reduced by the modulus of the left one. -/

namespace VectorCommitment.Value

inductive Modulus where
  | scalars
  | coordinates
deriving DecidableEq

namespace Modulus

def value : Modulus → Nat
  | scalars => groupOrder
  | coordinates => fieldModulus

def element (m : Modulus) (i : Int) : Value :=
  match m with
  | scalars => scalar (i % groupOrder).toNat
  | coordinates => coordinate (.ofInt i)

end Modulus

def modulus? : Value → Option Modulus
  | scalar _ => some .scalars
  | coordinate _ => some .coordinates
  | _ => none

def operand? (v : Value) : Option Int :=
  match v.residue? with
  | some n => some n
  | none => v.integer?

def isNumber : Value → Bool
  | bool _ | int _ | float _ => true
  | _ => false

def toFloat : Value → Outcome Binary64
  | float x => .ok x
  | v =>
    match v.integer? with
    | none => refuse .wrongType
    | some i =>
      match Binary64.ofInt? i with
      | some x => .ok x
      | none => refuse .numberTooLarge

def combineNumbers (exact : Int → Int → Int) (rounded : Binary64 → Binary64 → Binary64)
    (a b : Value) : Outcome Value :=
  match a.integer?, b.integer? with
  | some x, some y => .ok (int (exact x y))
  | _, _ =>
    if a.isNumber && b.isNumber then do
      let x ← a.toFloat
      return float (rounded x (← b.toFloat))
    else refuse .wrongType

def combine (exact : Int → Int → Int) (rounded : Binary64 → Binary64 → Binary64)
    (a b : Value) : Outcome Value :=
  match a.modulus? <|> b.modulus? with
  | none => combineNumbers exact rounded a b
  | some m =>
    match a.operand?, b.operand? with
    | some x, some y => .ok (m.element (exact x y))
    | _, _ => refuse .wrongType

def joinBytes? (a b : Value) : Option Value :=
  match a, b.octets? with
  | bytes s, some t => some (bytes (s ++ t))
  | byteArray s, some t => some (byteArray (s ++ t))
  | _, _ => none

def add (a b : Value) : Outcome Value :=
  match a, b with
  | quadratic x, quadratic y => .ok (quadratic (x + y))
  | target x, target y => .ok (target (x + y))
  | text s, text t => .ok (text (s ++ t))
  | list xs, list ys => .ok (list (xs ++ ys))
  | tuple xs, tuple ys => .ok (tuple (xs ++ ys))
  | a, b =>
    match joinBytes? a b with
    | some joined => .ok joined
    | none => combine (· + ·) Binary64.add a b

def sub (a b : Value) : Outcome Value :=
  match a, b with
  | quadratic x, quadratic y => .ok (quadratic (x - y))
  | target x, target y => .ok (target (x - y))
  | a, b => combine (· - ·) Binary64.sub a b

def scaled? (n : Int) : Value → Option Value
  | quadratic x => some (quadratic (x * ⟨.ofInt n, 0⟩))
  | target x => some (target (x.scale (.ofInt n)))
  | _ => none

def repeatItems {α : Type} (n : Int) (items : List α) (itemSize : Nat) (tooLong : Fault) :
    Outcome (List α) :=
  if !fitsWord n then refuse .countOutside
  else if items.isEmpty then .ok []
  else if greatestCount < n.toNat * items.length then refuse tooLong
  else if memoryLimit < n.toNat * items.length * itemSize then refuse .outOfMemory
  else .ok (List.replicate n.toNat items).flatten

def repeated (n : Int) : Value → Outcome Value
  | text t => do return text (← repeatItems n t 1 .countOutside)
  | bytes bs => do return bytes (← repeatItems n bs 1 .countOutside)
  | byteArray bs => do return byteArray (← repeatItems n bs 1 .outOfMemory)
  | list items => do return list (← repeatItems n items 8 .outOfMemory)
  | tuple items => do return tuple (← repeatItems n items 8 .outOfMemory)
  | _ => refuse .wrongType

def isSequence : Value → Bool
  | text _ | bytes _ | byteArray _ | list _ | tuple _ => true
  | _ => false

/-- The product of values at most one of which is an extension element: one scaled from the left or
by any number from the right, a collection repeated, or a product of numbers. -/
def mulMixed (a b : Value) : Outcome Value :=
  match (b.operand?.bind fun n => scaled? n a) <|> (a.integer?.bind fun n => scaled? n b) with
  | some v => .ok v
  | none =>
    match a.isSequence, b.integer?, b.isSequence, a.integer? with
    | true, some n, _, _ => a.repeated n
    | _, _, true, some n => b.repeated n
    | _, _, _, _ => combine (· * ·) Binary64.mul a b

/-- The product. A quadratic element takes the two lowest coefficients of a target element, which in
turn finds too few coefficients in a quadratic one. -/
def mul (a b : Value) : Outcome Value :=
  match a, b with
  | quadratic x, quadratic y => .ok (quadratic (x * y))
  | target x, target y => .ok (target (x * y))
  | quadratic x, target y => .ok (quadratic (x * ⟨y.coeffs.getD 0 0, y.coeffs.getD 1 0⟩))
  | target _, quadratic _ => refuse .indexOutside
  | a, b => mulMixed a b

def divNumbers (a b : Value) : Outcome Value :=
  match a.integer?, b.integer? with
  | some x, some y =>
    if y = 0 then refuse .zeroDivision
    else
      match Binary64.ofRatio? x y with
      | some q => .ok (float q)
      | none => refuse .numberTooLarge
  | _, _ =>
    if a.isNumber && b.isNumber then do
      let x ← a.toFloat
      match x.div? (← b.toFloat) with
      | some q => return float q
      | none => refuse .zeroDivision
    else refuse .wrongType

def div (a b : Value) : Outcome Value :=
  match a, b with
  | quadratic x, quadratic y => .ok (quadratic (x / y))
  | target x, target y => .ok (target (x / y))
  | quadratic x, b =>
    match b.operand? with
    | some n => .ok (quadratic (x * ⟨(Fp.ofInt n)⁻¹, 0⟩))
    | none => refuse .wrongType
  | target x, b =>
    match b.operand? with
    | some n => .ok (target (x.scale (Fp.ofInt n)⁻¹))
    | none => refuse .wrongType
  | a, b =>
    match a.modulus? <|> b.modulus? with
    | none => divNumbers a b
    | some m =>
      match a.operand?, b.operand? with
      | some x, some y => .ok (m.element (x * inverseMod m.value (y % m.value).toNat))
      | _, _ => refuse .wrongType

def neg : Value → Outcome Value
  | coordinate x => .ok (coordinate (-x))
  | quadratic x => .ok (quadratic (-x))
  | target x => .ok (target (-x))
  | float x => .ok (float x.neg)
  | a =>
    match a.modulus?, a.operand? with
    | some m, some x => .ok (m.element (-x))
    | none, some x => .ok (int (-x))
    | _, _ => refuse .wrongType

def powMod (m : Nat) : Nat → Nat → Nat → Nat
  | 0, _, _ => 1 % m
  | budget + 1, a, n =>
    if n = 0 then 1 % m
    else
      let rest := powMod m budget (a * a % m) (n / 2)
      if n % 2 = 1 then rest * a % m else rest

def powInt : Nat → Int → Nat → Int
  | 0, _, _ => 1
  | budget + 1, i, n =>
    if n = 0 then 1
    else
      let rest := powInt budget (i * i) (n / 2)
      if n % 2 = 1 then rest * i else rest

def powFloat (x : Binary64) (n : Int) : Outcome Value :=
  if n < 0 ∧ x.isZero then refuse .zeroDivision
  else
    match x.pow? n with
    | some y => .ok (float y)
    | none => refuse .numberTooLarge

def power (a : Value) (n : Nat) : Outcome Value :=
  match a with
  | quadratic x => .ok (quadratic (x ^ n))
  | target x => .ok (target (x ^ n))
  | float x => powFloat x n
  | a =>
    match a.modulus?, a.operand? with
    | some m, some x => .ok (m.element (powMod m.value (n + 1) (x.toNat % m.value) n))
    | none, some x => .ok (int (powInt (n + 1) x n))
    | _, _ => refuse .wrongType

/-- The power with an integer exponent, which a field element takes only from zero on. An extension
element takes an exponent below zero for zero. -/
def pow (a n : Value) : Outcome Value :=
  match n.integer? with
  | none => refuse .wrongType
  | some i =>
    if 0 ≤ i then a.power i.toNat
    else
      match a with
      | scalar _ | coordinate _ => refuse .tooDeep
      | quadratic _ | target _ => a.power 0
      | a => do powFloat (← a.toFloat) i

def orderOf (x y : Int) : Ordering := if x < y then .lt else if x = y then .eq else .gt

def compareNumbers (a b : Value) : Option Ordering :=
  match quotient? a, quotient? b with
  | some (m, c), some (n, d) => some (orderOf (m * d) (n * c))
  | some _, none =>
    match b with
    | float (.infinite negative) => some (if negative then .gt else .lt)
    | _ => none
  | none, some _ =>
    match a with
    | float (.infinite negative) => some (if negative then .lt else .gt)
    | _ => none
  | none, none =>
    match a, b with
    | float (.infinite s), float (.infinite t) =>
      some (if s = t then .eq else if s then .lt else .gt)
    | _, _ => none

def holds (orEqual : Bool) : Ordering → Bool
  | .lt => true
  | .eq => orEqual
  | .gt => false

def compareLists : List Nat → List Nat → Ordering
  | [], [] => .eq
  | [], _ :: _ => .lt
  | _ :: _, [] => .gt
  | x :: xs, y :: ys => if x = y then compareLists xs ys else orderOf x y

def comparedBytes? (a b : Value) : Option (List UInt8 × List UInt8) :=
  match a, b with
  | bytes s, bytes t => some (s, t)
  | byteArray s, b => b.octets?.map fun t => (s, t)
  | a, byteArray t => a.octets?.map fun s => (s, t)
  | _, _ => none

def atomBelow (orEqual : Bool) (a b : Value) : Outcome Bool :=
  match a.modulus? <|> b.modulus?, a.operand?, b.operand? with
  | some _, some x, some y => .ok (holds orEqual (orderOf x y))
  | some _, _, _ => refuse .wrongType
  | none, _, _ =>
    match a, b with
    | text s, text t => .ok (holds orEqual (compareLists s t))
    | a, b =>
      match comparedBytes? a b with
      | some (s, t) => .ok (holds orEqual (compareLists (s.map (·.toNat)) (t.map (·.toNat))))
      | none =>
        if a.isNumber && b.isNumber then .ok ((compareNumbers a b).any (holds orEqual))
        else refuse .wrongType

mutual

def isBelow (orEqual : Bool) : Value → Value → Outcome Bool
  | list xs, list ys => listIsBelow orEqual xs ys
  | tuple xs, tuple ys => listIsBelow orEqual xs ys
  | a, b => atomBelow orEqual a b

def listIsBelow (orEqual : Bool) : List Value → List Value → Outcome Bool
  | [], [] => .ok orEqual
  | [], _ :: _ => .ok true
  | _ :: _, [] => .ok false
  | x :: xs, y :: ys =>
    if areOne x y then listIsBelow orEqual xs ys
    else do if ← isSame x y then listIsBelow orEqual xs ys else isBelow orEqual x y

end

def less (a b : Value) : Outcome Bool := isBelow false a b

def lessOrEqual (a b : Value) : Outcome Bool := isBelow true a b

/-- The scalar of an integer, a truth value or a field element; the residue of a field element is
taken over as it is stored. -/
def toScalar (v : Value) : Outcome Value :=
  match v.residue? with
  | some n => .ok (scalar n)
  | none =>
    match v.integer? with
    | some i => .ok (Modulus.scalars.element i)
    | none => refuse .wrongType

end VectorCommitment.Value
