import VectorCommitment.Value.Arithmetic

/-! The chord and tangent law on pairs of coordinates of any kind. Where all coordinates lie in one
field it is the law of `Point`; elsewhere it is only what the formulas give. -/

namespace VectorCommitment.Value

def reflectedHeight (m x y newX : Value) : Outcome Value := do
  let left ← (← m.neg).mul newX
  (← left.add (← m.mul x)).sub y

def doubleCoordinates (x y : Value) : Outcome Value := do
  let rise ← (int 3).mul (← x.power 2)
  let m ← rise.div (← (int 2).mul y)
  let newX ← (← m.power 2).sub (← (int 2).mul x)
  return tuple [newX, ← reflectedHeight m x y newX]

/-- The sum of two points with different first coordinates, by the chord through them. The second
coordinate is computed from both points and has to come out the same. -/
def addByChord (x₁ y₁ x₂ y₂ : Value) : Outcome Value := do
  let rise ← y₂.sub y₁
  let m ← rise.div (← x₂.sub x₁)
  let newX ← (← (← m.power 2).sub x₁).sub x₂
  let newY ← reflectedHeight m x₁ y₁ newX
  if ← newY.isSame (← reflectedHeight m x₂ y₂ newX) then return tuple [newX, newY]
  else refuse .chordMissed

def addCoordinates (x₁ y₁ x₂ y₂ : Value) : Outcome Value := do
  if ← x₂.isSame x₁ then
    if ← y₂.isSame y₁ then doubleCoordinates x₁ y₁ else return null
  else addByChord x₁ y₁ x₂ y₂

def isOn (b : Value) : Value → Outcome Bool
  | null => .ok true
  | p => do
    let (x, y) ← p.pair
    let square ← y.power 2
    (← square.sub (← x.power 3)).isSame b

end VectorCommitment.Value
