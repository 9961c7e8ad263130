import VectorCommitment.Failure.Basic

/-! Equality of values as operations decide it. A field element compares with numbers only and
refuses anything else; other values of different types are merely different. -/

namespace VectorCommitment.Value

def residue? : Value → Option Nat
  | scalar residue => some residue
  | coordinate x => some x.val
  | _ => none

def quotient? : Value → Option (Int × Nat)
  | bool b => some (if b then 1 else 0, 1)
  | int i => some (i, 1)
  | float x => x.quotient?
  | _ => none

def numbersEqual (a b : Value) : Bool :=
  match quotient? a, quotient? b with
  | some (n₁, d₁), some (n₂, d₂) => n₁ * d₂ = n₂ * d₁
  | _, _ =>
    match a, b with
    | float (.infinite s), float (.infinite t) => s = t
    | _, _ => false

def isStrict : Value → Bool
  | scalar _ | coordinate _ | quadratic _ | target _ => true
  | _ => false

def atomsEqual (a b : Value) : Except Fault Bool :=
  match residue? a, residue? b with
  | some m, some n => .ok (m = n)
  | some m, none =>
    match integer? b with
    | some i => .ok ((m : Int) = i)
    | none => .error .wrongType
  | none, some n =>
    match integer? a with
    | some i => .ok (i = n)
    | none => .error .wrongType
  | none, none =>
    match a, b with
    | quadratic x, quadratic y => .ok (x = y)
    | target x, target y => .ok (x = y)
    | null, null => .ok true
    | text s, text t => .ok (s = t)
    | _, _ =>
      match a.octets?, b.octets? with
      | some s, some t => .ok (s = t)
      | _, _ => if a.isStrict || b.isStrict then .error .wrongType else .ok (numbersEqual a b)

def areOne : Value → Value → Bool
  | float (.undefined (some m)), float (.undefined (some n)) => m = n
  | _, _ => false

mutual

/-- Whether two values are equal. Members of collections and fields of records are so already if
they are one. -/
def equals : Value → Value → Except Fault Bool
  | list xs, list ys => if xs.length = ys.length then allEqual xs ys else .ok false
  | tuple xs, tuple ys => allEqual xs ys
  | dict xs, dict ys => if xs.length = ys.length then entriesEqual xs ys else .ok false
  | prover n g, prover m h => if n = m then allEqual g h else .ok false
  | verifier n h t, verifier m h' t' =>
    if n = m then do
      if ← allEqual h h' then
        if areOne t t' then .ok true else equals t t'
      else .ok false
    else .ok false
  | a, b => atomsEqual a b

def allEqual : List Value → List Value → Except Fault Bool
  | [], [] => .ok true
  | x :: xs, y :: ys =>
    if areOne x y then allEqual xs ys
    else do if ← equals x y then allEqual xs ys else .ok false
  | _, _ => .ok false

def entriesEqual : List (Text × Value) → List (Text × Value) → Except Fault Bool
  | [], _ => .ok true
  | (key, v) :: rest, entries =>
    match lookup? key entries with
    | none => .ok false
    | some w =>
      if areOne v w then entriesEqual rest entries
      else do if ← equals v w then entriesEqual rest entries else .ok false

end

def isSame (a b : Value) : Outcome Bool :=
  match equals a b with
  | .ok same => .ok same
  | .error cause => refuse cause

end VectorCommitment.Value
