import VectorCommitment.Number.Logarithm

/-! Powers of floating-point numbers: the exponential of a multiple of the logarithm, one of the two
neighbours of the exact power. -/

namespace VectorCommitment.Binary64

def fractionalPower (index : Nat) : Sum :=
  let exact := FixedPoint.exp (FixedPoint.log 2 1 * index / 128)
  match ofQuotient false exact FixedPoint.one with
  | .finite _ mantissa exponent =>
    let (num, den) := magnitude mantissa exponent
    let rest : Int := (exact * den : Nat) - (FixedPoint.one * num : Nat)
    ⟨.finite false mantissa exponent,
      ofQuotient (rest < 0) rest.natAbs (FixedPoint.one * num)⟩
  | x => ⟨x, x⟩

def shift (x : Binary64) (power : Int) : Binary64 :=
  match x with
  | .finite negative mantissa exponent => .finite negative mantissa (exponent + power)
  | x => x

def unit : Binary64 := .finite false (Nat.pow 2 52) (-52)

def expRest (r difference : Binary64) : Binary64 :=
  let square := r * r
  let third := .finite false 0x1555555555543C (-55)
  let fifth := .finite false 0x11111167A4D017 (-59)
  let first := mulAdd r third (.finite false 0x1FFFFFFFFFFDBD (-54))
  let second := mulAdd r fifth (.finite false 0x155555CF172B91 (-57))
  mulAdd (square * square) second (mulAdd square first (r + difference))

/-- A number `y` near or below the least normal one, times `2 ^ -1022`, given `2 ^ 1022` times it as
`factor + product`. Below one it is brought to its final precision first. -/
def descend (factor product : Binary64) : Binary64 :=
  let y := factor + product
  let y :=
    if y.isWithin 1 1 then
      let low := factor - y + product
      let high := unit + y
      unit - high + y + low + high - unit
    else y
  y * .finite false (Nat.pow 2 52) (-1074)

def nearestCount (x : Binary64) : Binary64 :=
  let shifter := Binary64.finite false 0x18000000000000 0
  mulAdd x (.finite false 0x171547652B82FE (-45)) shifter - shifter

def reduced (x : Sum) (count : Binary64) : Binary64 :=
  mulAdd count (.finite true 0x1CF79ABC9E3B3A (-99))
    (mulAdd count (.finite true 0x162E42FEFA0000 (-60)) x.high) + x.low

def expWithin (x : Sum) : Binary64 :=
  let count := nearestCount x.high
  let n := count.truncate?.getD 0
  let factor := fractionalPower (n % 128).toNat
  let rest := expRest (reduced x count) factor.low
  if x.high.isWithin 512 1 then
    let factor := factor.high.shift (n / 128)
    mulAdd factor rest factor
  else if 0 ≤ n then
    let factor := factor.high.shift (n / 128 - 1009)
    mulAdd factor rest factor * .finite false (Nat.pow 2 52) 957
  else
    let factor := factor.high.shift (n / 128 + 1022)
    descend factor (factor * rest)

def exp (x : Sum) : Binary64 :=
  if x.high.isWithin 1 (Nat.pow 2 54) then unit
  else if x.high.isWithin 1024 1 then expWithin x
  else if x.high.isNegative then .finite false 0 leastExponent
  else .infinite false

def powMagnitude (mantissa : Nat) (exponent : Int) (y : Binary64) : Binary64 :=
  let log := log mantissa exponent
  let high := y * log.high
  exp ⟨high, mulAdd y log.low (mulAdd y log.high (-high))⟩

def isOdd (x : Binary64) : Bool := x.truncate?.any (· % 2 = 1)

def powFinite (mantissa : Nat) (exponent : Int) (y : Binary64) : Binary64 :=
  if mantissa = 0 then .finite false 0 leastExponent
  else if mantissa = Nat.pow 2 52 ∧ exponent = -52 then unit
  else powMagnitude mantissa exponent y

def pow (x y : Binary64) : Binary64 :=
  if y.isZero then unit
  else
    let negated := x.isNegative && y.isOdd
    match x with
    | .undefined _ => .undefined none
    | .infinite _ => if y.isNegative then .finite negated 0 leastExponent else .infinite negated
    | .finite _ mantissa exponent =>
      let power := powFinite mantissa exponent y
      if negated then -power else power

def pow? (x : Binary64) (n : Int) : Option Binary64 :=
  match ofInt? n with
  | none => none
  | some y =>
    match x, x.pow y with
    | .finite .., .infinite _ => none
    | _, power => some power

end VectorCommitment.Binary64
