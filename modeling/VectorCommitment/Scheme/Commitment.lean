import VectorCommitment.Scheme.Parameters
import VectorCommitment.Value.MultiScalar
import VectorCommitment.Value.Pairing

/-! Committing to a vector, opening a position and verifying an opening. The witness for a position
uses the prover's entries from `N - position` on, so that the opened entry falls on the slot of the
power that is kept back. -/

namespace VectorCommitment

/-- The residue of a message unit: a scalar as it is stored, or an integer reduced by the group
order. Truth values are no message units. -/
def messageUnit? : Value → Option Nat
  | .scalar residue => some residue
  | .int i => some (i % groupOrder).toNat
  | _ => none

def messageUnit (v : Value) : Outcome Nat :=
  match messageUnit? v with
  | some residue => .ok residue
  | none => refuse (if v.isWritable then .notMessageUnit v else .unwritable)

def requireUnit (v : Value) : Outcome Nat :=
  match messageUnit? v with
  | some residue => .ok residue
  | none => reject (.notMessageUnit v)

def messageUnits (capacity : Nat) (inputs : Value) : Outcome (List Nat) :=
  match inputs.members with
  | .error _ => reject (.vectorNotIterable inputs.typeName)
  | .ok items => do
    let units ← items.mapM requireUnit
    if capacity < units.length then reject (.vectorTooLong units.length capacity)
    else return units

def checkPosition (capacity : Nat) : Value → Outcome Nat
  | .int i => if 0 ≤ i ∧ i < capacity then .ok i.toNat else reject (.positionOutside i capacity)
  | v => reject (.positionNotInteger v)

def sumOfUnits (entries : List Value) (units : List Nat) : Outcome Value :=
  Value.sumOfMultiples entries (units.map .scalar)

def commit (prover inputs : Value) : Outcome Value := do
  let capacity ← prover.capacityField
  let units ← messageUnits capacity inputs
  let g ← prover.proverEntries
  sumOfUnits (g.take units.length) units

def createWitness (prover inputs position : Value) : Outcome Value := do
  let capacity ← prover.capacityField
  let units ← messageUnits capacity inputs
  let position ← checkPosition capacity position
  let start := capacity - position
  let stop := start + units.length
  let g ← prover.proverEntries
  if g.length < stop then reject (.windowOutside position start stop g.length)
  else if units.getD position 0 = 0 then reject (.openedZero position)
  else sumOfUnits ((g.drop start).take units.length) units

/-- Whether a witness opens a position of a commitment to a value: the commitment divided by the
value, paired with the entry for the position, and the witness divided by minus the value, paired
with the generator, have to multiply to the target of the parameters. -/
def verify (e : PairingMap) (commitment verifier value position witness : Value) :
    Outcome Bool := do
  let capacity ← verifier.capacityField
  let position ← checkPosition capacity position
  let unit ← requireUnit value
  if unit = 0 then reject .verifiedZero
  else if !commitment.isG1Point then reject .commitmentNotPoint
  else if !witness.isG1Point then reject .witnessNotPoint
  else
    let inverse := inverseMod groupOrder unit
    let scaled ← commitment.mulPoint (.scalar inverse)
    let proof ← witness.mulPoint (.scalar ((groupOrder - inverse) % groupOrder))
    let (h, target) ← verifier.verifierEntries
    match h[capacity - position - 1]? with
    | none => refuse .indexOutside
    | some entry =>
      let product ← Value.pairingProduct e [(scaled, entry), (proof, .ofG2 .generator)]
      (Value.target product).isSame target

end VectorCommitment
