import VectorCommitment.Value.Conversion

/-! The parameter records, of which only sizes are checked. -/

namespace VectorCommitment

namespace Value

def capacityField : Value → Outcome Nat
  | prover capacity _ => .ok capacity
  | verifier capacity .. => .ok capacity
  | _ => refuse .noField

def proverEntries : Value → Outcome (List Value)
  | prover _ g => .ok g
  | _ => refuse .noField

def verifierEntries : Value → Outcome (List Value × Value)
  | verifier _ h t => .ok (h, t)
  | _ => refuse .noField

end Value

def readCapacity (capacity : Value) : Outcome Nat := do
  let n ← capacity.toInt
  if n < 1 then reject (.capacityBelowOne n) else return n.toNat

def readEntries (entries : Value) : Outcome (List Value) :=
  match entries.members with
  | .ok items => .ok items
  | .error cause => refuse cause

def proverParam (capacity g : Value) : Outcome Value := do
  let capacity ← readCapacity capacity
  let g ← readEntries g
  if g.length < 2 * capacity - 1 then reject (.proverTooShort g.length capacity)
  else return .prover capacity g

def verifierParam (capacity h t : Value) : Outcome Value := do
  let capacity ← readCapacity capacity
  let h ← readEntries h
  if h.length < capacity then reject (.verifierTooShort h.length capacity)
  else
    match t with
    | .null => reject .targetMissing
    | t => return .verifier capacity h t

/-- Whether two records have the same capacity; whether they come from the same setup cannot be
seen. -/
def checkCompatible (prover verifier : Value) : Outcome Unit := do
  let n ← prover.capacityField
  let m ← verifier.capacityField
  if n = m then return () else reject (.capacitiesDiffer n m)

end VectorCommitment
