import VectorCommitment.Field.Prime

namespace VectorCommitment

@[ext] structure Fp2 where
  re : Fp
  im : Fp
deriving DecidableEq

namespace Fp2

instance (n : Nat) : OfNat Fp2 n := ⟨⟨OfNat.ofNat n, 0⟩⟩

instance : Add Fp2 := ⟨fun a b => ⟨a.re + b.re, a.im + b.im⟩⟩

instance : Sub Fp2 := ⟨fun a b => ⟨a.re - b.re, a.im - b.im⟩⟩

instance : Neg Fp2 := ⟨fun a => ⟨-a.re, -a.im⟩⟩

instance : Mul Fp2 := ⟨fun a b => ⟨a.re * b.re - a.im * b.im, a.re * b.im + a.im * b.re⟩⟩

def conj (a : Fp2) : Fp2 := ⟨a.re, -a.im⟩

def norm (a : Fp2) : Fp := a.re * a.re + a.im * a.im

instance : Inv Fp2 := ⟨fun a => ⟨a.re * a.norm⁻¹, -a.im * a.norm⁻¹⟩⟩

instance : Div Fp2 := ⟨fun a b => a * b⁻¹⟩

def powWithin : Nat → Fp2 → Nat → Fp2
  | 0, _, _ => 1
  | budget + 1, a, n =>
    if n = 0 then 1
    else
      let rest := powWithin budget (a * a) (n / 2)
      if n % 2 = 1 then rest * a else rest

instance : Pow Fp2 Nat := ⟨fun a n => powWithin n a n⟩

instance : Inhabited Fp2 := ⟨0⟩

end Fp2

end VectorCommitment
