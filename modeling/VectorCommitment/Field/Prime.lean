/-! The two primes behind the scheme, of the coordinates of points and of the order of both source
groups. Anything divided by zero is zero. -/

namespace VectorCommitment

def fieldModulus : Nat :=
  21888242871839275222246405745257275088696311157297823662689037894645226208583

def groupOrder : Nat :=
  21888242871839275222246405745257275088548364400416034343698204186575808495617

theorem fieldModulus_pos : 0 < fieldModulus := by decide

theorem groupOrder_pos : 0 < groupOrder := by decide

theorem groupOrder_lt_fieldModulus : groupOrder < fieldModulus := by decide

/-- Euclid's algorithm on `low < high`, which carries for each of the two the factor by which it
is a multiple of the starting value modulo `m`. The factor of the last remainder above zero is
returned. Remainders shrink, so a budget of `low` steps is never used up. -/
def euclidFactor : Nat → Nat → Nat → Int → Int → Int
  | 0, _, _, _, factor => factor
  | budget + 1, high, low, highFactor, factor =>
    if low ≤ 1 then factor
    else euclidFactor budget low (high % low) factor (highFactor - factor * (high / low))

def inverseMod (m a : Nat) : Nat :=
  if a % m = 0 then 0 else (euclidFactor (a % m) m (a % m) 0 1 % m).toNat

theorem inverseMod_lt {m : Nat} (hm : 0 < m) (a : Nat) : inverseMod m a < m := by
  unfold inverseMod
  split
  · exact hm
  · have := Int.emod_lt_of_pos (euclidFactor (a % m) m (a % m) 0 1) (Int.natCast_pos.mpr hm)
    omega

def Fp : Type := Fin fieldModulus

namespace Fp

def val (a : Fp) : Nat := Fin.val a

theorem val_lt (a : Fp) : a.val < fieldModulus := Fin.isLt a

@[ext] theorem ext {a b : Fp} (h : a.val = b.val) : a = b := Fin.ext h

def ofNat (n : Nat) : Fp := ⟨n % fieldModulus, Nat.mod_lt n fieldModulus_pos⟩

def ofInt (i : Int) : Fp := ofNat (i % fieldModulus).toNat

instance : DecidableEq Fp := inferInstanceAs (DecidableEq (Fin fieldModulus))

instance (n : Nat) : OfNat Fp n := ⟨ofNat n⟩

instance : Add Fp := inferInstanceAs (Add (Fin fieldModulus))

instance : Sub Fp := inferInstanceAs (Sub (Fin fieldModulus))

instance : Mul Fp := inferInstanceAs (Mul (Fin fieldModulus))

instance : Neg Fp := inferInstanceAs (Neg (Fin fieldModulus))

instance : Inv Fp := ⟨fun a => ofNat (inverseMod fieldModulus a.val)⟩

instance : Div Fp := ⟨fun a b => a * b⁻¹⟩

instance : Inhabited Fp := ⟨0⟩

@[simp] theorem val_ofNat (n : Nat) : (ofNat n).val = n % fieldModulus := rfl

theorem ofNat_val (a : Fp) : ofNat a.val = a := ext (Nat.mod_eq_of_lt a.val_lt)

end Fp

end VectorCommitment
