import VectorCommitment.Number.Arithmetic

/-! The natural logarithm of a floating-point number, as the sum of two. Every step is one
floating-point operation, so that the result is fixed to its last bit. -/

namespace VectorCommitment

/-! Fixed-point arithmetic of 192 binary places. The series are cut after 64 terms, when what is
left is below the last places that anything is taken from. -/

namespace FixedPoint

def one : Nat := Nat.pow 2 192

def mul (x y : Nat) : Nat := x * y / one

def oddSeries (square : Nat) : Nat → Nat → Nat → Nat
  | 0, _, _ => 0
  | terms + 1, k, power => power / k + oddSeries square terms (k + 2) (mul power square)

def log (num den : Nat) : Nat :=
  let x := one * (num - den) / (num + den)
  2 * oddSeries (mul x x) 64 1 x

def expSeries (x : Nat) : Nat → Nat → Nat → Nat
  | 0, _, _ => 0
  | terms + 1, n, term => term + expSeries x terms (n + 1) (mul term x / n)

def exp (x : Nat) : Nat := expSeries x 64 1 one

end FixedPoint

namespace Binary64

structure Sum where
  high : Binary64
  low : Binary64
deriving DecidableEq

structure Node where
  reciprocal : Binary64
  log : Sum
deriving DecidableEq

namespace Node

def start : Nat := 0x6955500000000

def step : Nat := Nat.pow 2 45

/-- The reciprocal of a node: the nearest multiple of `1 / 128` to the reciprocal of the middle of
its interval, or of `1 / 256` where the interval lies above one. -/
def quotient (index : Nat) : Nat × Nat :=
  let middle := start + index * step + step / 2
  if middle < Nat.pow 2 52 then (roundQuotient (Nat.pow 2 60) (Nat.pow 2 52 + middle), 128)
  else (roundQuotient (Nat.pow 2 60) middle, 256)

def split (negative : Bool) (x : Nat) : Sum :=
  let unit := FixedPoint.one / Nat.pow 2 43
  let count := roundQuotient x unit
  let rest : Int := (x : Int) - (count * unit : Nat)
  ⟨ofQuotient negative count (Nat.pow 2 43),
    ofQuotient (negative != (rest < 0)) rest.natAbs FixedPoint.one⟩

def ofIndex (index : Nat) : Node :=
  let (num, den) := quotient index
  ⟨ofQuotient false num den,
    if den ≤ num then split true (FixedPoint.log num den)
    else split false (FixedPoint.log den num)⟩

end Node

def logTwo : Sum := ⟨.finite false 0x162E42FEFA3800 (-53), .finite false 0x1EF35793C76730 (-97)⟩

def logRest (r square : Binary64) : Binary64 :=
  let first := mulAdd r (.finite false 0x10000000000006 (-53)) (.finite true 0x15555555555560 (-53))
  let second :=
    mulAdd r (.finite true 0x1555555529A47A (-53)) (.finite false 0x1999999959554E (-53))
  let third := mulAdd r (.finite false 0x10002B8B263FC3 (-52)) (.finite true 0x12495B9B4845E9 (-52))
  mulAdd square (mulAdd square third second) first

def logAt (power : Int) (node : Node) (z : Binary64) : Sum :=
  let count := ofQuotient (power < 0) power.natAbs 1
  let r := mulAdd z node.reciprocal (.finite true (Nat.pow 2 52) (-52))
  let base := mulAdd count logTwo.high node.log.high
  let baseLow := mulAdd count logTwo.low node.log.low
  let linear := base + r
  let half := r * .finite true (Nat.pow 2 52) (-53)
  let square := r * half
  let high := linear + square
  let low := baseLow + (base - linear + r) + mulAdd r half (-square) + (linear - high + square)
  let low := mulAdd (r * square) (logRest r square) low
  let sum := high + low
  ⟨sum, high - sum + low⟩

def log (mantissa : Nat) (exponent : Int) : Sum :=
  let shift := 52 - Nat.log2 mantissa
  let mantissa := mantissa * Nat.pow 2 shift
  let exponent := exponent - shift
  let place := mantissa - Nat.pow 2 52
  if place < Node.start then
    logAt (exponent + 52) (.ofIndex ((place + Nat.pow 2 52 - Node.start) / Node.step))
      (.finite false mantissa (-52))
  else
    logAt (exponent + 53) (.ofIndex ((place - Node.start) / Node.step))
      (.finite false mantissa (-53))

end Binary64

end VectorCommitment
