import VectorCommitment.Number.Binary64
import VectorCommitment.Text.Decimal

namespace VectorCommitment.Binary64

structure Numeral where
  digits : Nat
  exponent : Int
deriving DecidableEq

def scaleTen (num den : Nat) (exponent : Int) : Nat × Nat :=
  if 0 ≤ exponent then (num, den * Nat.pow 10 exponent.toNat)
  else (num * Nat.pow 10 (-exponent).toNat, den)

def pointFrom : Nat → Nat → Nat → Int → Int
  | 0, _, _, point => point
  | budget + 1, num, den, point =>
    let (n, d) := scaleTen num den point
    if n < d then point else pointFrom budget num den (point + 1)

def decimalPoint (num den : Nat) : Int :=
  pointFrom 4 num den ((Nat.log2 num - Nat.log2 den : Int) * 30103 / 100000 - 1)

/-- Whether `digits * 10 ^ exponent` rounds to `mantissa * 2 ^ binary`: it lies between the
midpoints to the two neighbours, which belong to an even mantissa. All is compared in quarters of
the last binary place. -/
def readsBack (mantissa : Nat) (binary : Int) (numeral : Numeral) : Bool :=
  let (unitNum, unitDen) := magnitude 1 binary
  let (num, den) := scaleTen numeral.digits 1 (-numeral.exponent)
  let value := 4 * num * unitDen
  let unit := den * unitNum
  let below := if mantissa = Nat.pow 2 52 && leastExponent < binary then 1 else 2
  let low := (4 * mantissa - below) * unit
  let high := (4 * mantissa + 2) * unit
  if mantissa % 2 = 0 then low ≤ value && value ≤ high else low < value && value < high

def onGrid? (mantissa : Nat) (binary exponent : Int) : Option Numeral :=
  let (num, den) := magnitude mantissa binary
  let (n, d) := scaleTen num den exponent
  let lower : Numeral := ⟨n / d, exponent⟩
  let upper : Numeral := ⟨n / d + 1, exponent⟩
  let nearest : Numeral := ⟨roundQuotient n d, exponent⟩
  if readsBack mantissa binary nearest then some nearest
  else if readsBack mantissa binary lower then some lower
  else if readsBack mantissa binary upper then some upper
  else none

def searchFrom : Nat → Nat → Int → Int → Nat → Numeral
  | 0, mantissa, binary, point, length =>
    (onGrid? mantissa binary (point - length)).getD ⟨mantissa, binary⟩
  | budget + 1, mantissa, binary, point, length =>
    match onGrid? mantissa binary (point - length) with
    | some numeral => numeral
    | none => searchFrom budget mantissa binary point (length + 1)

def shortest (mantissa : Nat) (binary : Int) : Numeral :=
  let (num, den) := magnitude mantissa binary
  searchFrom 16 mantissa binary (decimalPoint num den) 1

def trimZeros (digits : Text) : Text := (digits.reverse.dropWhile (· = 0x30)).reverse

def exponentText (exponent : Int) : Text :=
  let digits := Text.ofNat exponent.natAbs
  let digits := if digits.length < 2 then 0x30 :: digits else digits
  (if exponent < 0 then 0x2D else 0x2B) :: digits

def layout (digits : Text) (point : Int) : Text :=
  let count : Int := digits.length
  if -4 < point && point ≤ 16 then
    if point ≤ 0 then Text.ofString "0." ++ List.replicate (-point).toNat 0x30 ++ digits
    else if point < count then
      digits.take point.toNat ++ 0x2E :: digits.drop point.toNat
    else digits ++ List.replicate (point - count).toNat 0x30 ++ Text.ofString ".0"
  else
    let tail := digits.drop 1
    digits.take 1 ++ (if tail = [] then [] else 0x2E :: tail) ++
      0x65 :: exponentText (point - 1)

def toText : Binary64 → Text
  | .undefined _ => Text.ofString "nan"
  | .infinite negative => Text.ofString (if negative then "-inf" else "inf")
  | .finite negative mantissa exponent =>
    let sign : Text := if negative then [0x2D] else []
    if mantissa = 0 then sign ++ Text.ofString "0.0"
    else
      let numeral := shortest mantissa exponent
      let written := Text.ofNat numeral.digits
      sign ++ layout (trimZeros written) (written.length + numeral.exponent)

end VectorCommitment.Binary64
