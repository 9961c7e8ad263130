namespace VectorCommitment

inductive Point (F : Type) where
  | infinity
  | affine (x y : F)
deriving DecidableEq

namespace Point

variable {F : Type}

instance : Zero (Point F) := ⟨infinity⟩

instance : Inhabited (Point F) := ⟨infinity⟩

def neg [Neg F] : Point F → Point F
  | infinity => infinity
  | affine x y => affine x (-y)

instance [Neg F] : Neg (Point F) := ⟨neg⟩

variable [Add F] [Sub F] [Mul F] [Div F]

def reflected (m x₁ y₁ x₂ : F) : Point F :=
  let x := m * m - x₁ - x₂
  affine x (m * (x₁ - x) - y₁)

def tangentSlope (x y : F) : F := (x * x + x * x + x * x) / (y + y)

def double : Point F → Point F
  | infinity => infinity
  | affine x y => reflected (tangentSlope x y) x y x

variable [DecidableEq F]

def add : Point F → Point F → Point F
  | infinity, q => q
  | p, infinity => p
  | affine x₁ y₁, affine x₂ y₂ =>
    if x₂ = x₁ then
      if y₂ = y₁ then double (affine x₁ y₁) else infinity
    else reflected ((y₂ - y₁) / (x₂ - x₁)) x₁ y₁ x₂

instance : Add (Point F) := ⟨add⟩

/-- The multiple by a natural number, by repeated doubling. A budget of `n` halvings is enough
for the factor `n`. -/
def multipleWithin : Nat → Nat → Point F → Point F
  | 0, _, _ => infinity
  | budget + 1, n, p =>
    if n = 0 then infinity
    else if n = 1 then p
    else
      let rest := multipleWithin budget (n / 2) p.double
      if n % 2 = 1 then rest + p else rest

instance : SMul Nat (Point F) := ⟨fun n p => multipleWithin n n p⟩

theorem infinity_add (p : Point F) : infinity + p = p := by
  cases p <;> rfl

theorem add_infinity (p : Point F) : p + infinity = p := by
  cases p <;> rfl

end Point

end VectorCommitment
