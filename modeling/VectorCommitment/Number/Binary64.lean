namespace VectorCommitment

/-- A floating-point number. A finite one stands for `mantissa * 2 ^ exponent` with its sign, where
the mantissa has 53 bits, or fewer at the least exponent. What is undefined may carry a mark, by
which one such result is told from another. -/
inductive Binary64 where
  | finite (negative : Bool) (mantissa : Nat) (exponent : Int)
  | infinite (negative : Bool)
  | undefined (mark : Option Nat)
deriving DecidableEq

namespace Binary64

def leastExponent : Int := -1074

def greatestExponent : Int := 971

def roundQuotient (num den : Nat) : Nat :=
  let quotient := num / den
  let rest := 2 * (num % den)
  if rest < den then quotient
  else if den < rest then quotient + 1
  else quotient + quotient % 2

def scale (num den : Nat) (exponent : Int) : Nat × Nat :=
  if 0 ≤ exponent then (num, den * Nat.pow 2 exponent.toNat)
  else (num * Nat.pow 2 (-exponent).toNat, den)

def exponentOf (num den : Nat) : Int :=
  let guess : Int := Nat.log2 num - Nat.log2 den - 52
  let (n, d) := scale num den guess
  let exact := if n < d * Nat.pow 2 52 then guess - 1 else guess
  max exact leastExponent

def ofQuotient (negative : Bool) (num den : Nat) : Binary64 :=
  if num = 0 then .finite negative 0 leastExponent
  else
    let exponent := exponentOf num den
    let (n, d) := scale num den exponent
    let mantissa := roundQuotient n d
    let (mantissa, exponent) :=
      if mantissa = Nat.pow 2 53 then (Nat.pow 2 52, exponent + 1) else (mantissa, exponent)
    if greatestExponent < exponent then .infinite negative else .finite negative mantissa exponent

def ofDecimal (negative : Bool) (digits : Nat) (exponent : Int) : Binary64 :=
  let size : Int := (Nat.log2 digits * 30103 / 100000 : Nat) + exponent
  if digits = 0 || size < -400 then .finite negative 0 leastExponent
  else if 400 < size then .infinite negative
  else if 0 ≤ exponent then ofQuotient negative (digits * Nat.pow 10 exponent.toNat) 1
  else ofQuotient negative digits (Nat.pow 10 (-exponent).toNat)

def magnitude (mantissa : Nat) (exponent : Int) : Nat × Nat :=
  if 0 ≤ exponent then (mantissa * Nat.pow 2 exponent.toNat, 1)
  else (mantissa, Nat.pow 2 (-exponent).toNat)

def isUndefined : Binary64 → Bool
  | .undefined _ => true
  | _ => false

def truncate? : Binary64 → Option Int
  | .finite negative mantissa exponent =>
    let (num, den) := magnitude mantissa exponent
    some (if negative then -((num / den : Nat) : Int) else (num / den : Nat))
  | _ => none

def quotient? : Binary64 → Option (Int × Nat)
  | .finite negative mantissa exponent =>
    let (num, den) := magnitude mantissa exponent
    some (if negative then -(num : Int) else num, den)
  | _ => none

/-- The remainder of the division by a natural number above zero, rounded twice: the divisor to the
nearest floating-point number, and so is what is added to make the remainder of a negative number
positive. -/
def remainder (x : Binary64) (divisor : Nat) : Binary64 :=
  match x, ofQuotient false divisor 1 with
  | .finite negative mantissa exponent, .finite _ divisorMantissa divisorExponent =>
    let (num, den) := magnitude mantissa exponent
    let (divisorNum, divisorDen) := magnitude divisorMantissa divisorExponent
    let rest := num * divisorDen % (divisorNum * den)
    let unit := den * divisorDen
    if negative && rest ≠ 0 then ofQuotient false (divisorNum * den - rest) unit
    else ofQuotient false rest unit
  | _, _ => .undefined none

end Binary64

end VectorCommitment
