import VectorCommitment.Field.Quadratic

/-! The field the pairing takes its values in: polynomials in `w` over the coordinate field modulo
`w ^ 12 - 18 * w ^ 6 + 82`, held as twelve coefficients from the lowest power up. -/

namespace VectorCommitment

def convolve : List Nat → List Nat → List Nat
  | [], _ => []
  | [a], bs => bs.map (a * ·)
  | a :: as, bs => addLists (bs.map (a * ·)) (0 :: convolve as bs)
where
  addLists : List Nat → List Nat → List Nat
    | [], bs => bs
    | as, [] => as
    | a :: as, b :: bs => (a + b) :: addLists as bs

@[ext] structure Target where
  coeffs : List Fp
  length_eq : coeffs.length = 12
deriving DecidableEq

namespace Target

def coefficient (poly : List Nat) (k : Nat) : Nat := poly.getD k 0

/-- The remainder of a polynomial of degree at most 22. Since `w ^ 12 = 18 * w ^ 6 - 82` and
`w ^ 18 = 242 * w ^ 6 - 1476`, the four groups of six coefficients are folded into two. -/
def reduce (poly : List Nat) : Target where
  coeffs :=
    ((List.range 6).map fun k =>
      .ofNat (coefficient poly k + (fieldModulus - 82) * coefficient poly (12 + k) +
        (fieldModulus - 1476) * coefficient poly (18 + k))) ++
    ((List.range 6).map fun k =>
      .ofNat (coefficient poly (6 + k) + 18 * coefficient poly (12 + k) +
        242 * coefficient poly (18 + k)))
  length_eq := by simp

instance (n : Nat) : OfNat Target n := ⟨⟨.ofNat n :: List.replicate 11 0, rfl⟩⟩

instance : Mul Target :=
  ⟨fun a b => reduce (convolve (a.coeffs.map (·.val)) (b.coeffs.map (·.val)))⟩

instance : Add Target :=
  ⟨fun a b => ⟨List.zipWith (· + ·) a.coeffs b.coeffs, by simp [a.length_eq, b.length_eq]⟩⟩

instance : Sub Target :=
  ⟨fun a b => ⟨List.zipWith (· - ·) a.coeffs b.coeffs, by simp [a.length_eq, b.length_eq]⟩⟩

instance : Neg Target := ⟨fun a => ⟨a.coeffs.map (- ·), by simp [a.length_eq]⟩⟩

def scale (c : Fp) (a : Target) : Target := ⟨a.coeffs.map (c * ·), by simp [a.length_eq]⟩

def powWithin : Nat → Target → Nat → Target
  | 0, _, _ => 1
  | budget + 1, a, n =>
    if n = 0 then 1
    else
      let rest := powWithin budget (a * a) (n / 2)
      if n % 2 = 1 then rest * a else rest

instance : Pow Target Nat := ⟨fun a n => powWithin n a n⟩

def ofParts (parts : List Fp2) : Target where
  coeffs :=
    ((List.range 6).map fun k => (parts.getD k 0).re - 9 * (parts.getD k 0).im) ++
    ((List.range 6).map fun k => (parts.getD k 0).im)
  length_eq := by simp

instance : Inhabited Target := ⟨1⟩

def trim (poly : List Fp) : List Fp := (poly.reverse.dropWhile (· = 0)).reverse

def subShifted (poly : List Fp) (c : Fp) (shift : Nat) (other : List Fp) : List Fp :=
  let size := max poly.length (shift + other.length)
  (List.range size).map fun k =>
    poly.getD k 0 - (if k < shift then 0 else c * other.getD (k - shift) 0)

/-- Euclid's algorithm on two polynomials, each with the factor by which it is a multiple of the
starting polynomial modulo the modulus: the leading term of the longer one is cancelled until a
constant is left, whose factor divided by it is returned. The two together lose a coefficient in
every other step at least. -/
def euclidFactor : Nat → List Fp → List Fp → List Fp → List Fp → List Fp
  | 0, _, _, _, _ => []
  | budget + 1, high, highFactor, low, lowFactor =>
    if low.length ≤ 1 then lowFactor.map (· / low.headD 0)
    else if high.length < low.length then euclidFactor budget low lowFactor high highFactor
    else
      let c := high.getLastD 0 / low.getLastD 0
      let shift := high.length - low.length
      euclidFactor budget (trim (subShifted high c shift low))
        (subShifted highFactor c shift lowFactor) low lowFactor

def modulus : List Fp := [82, 0, 0, 0, 0, 0, .ofInt (-18), 0, 0, 0, 0, 0, 1]

def inverseBudget : Nat := 64

instance : Inv Target :=
  ⟨fun a =>
    reduce ((euclidFactor inverseBudget modulus [] (trim a.coeffs) [1]).map (·.val))⟩

instance : Div Target := ⟨fun a b => a * b⁻¹⟩

end Target

end VectorCommitment
