import VectorCommitment.Text.Basic

namespace VectorCommitment.Text

def digitsOnto : Nat → Nat → Text → Text
  | 0, _, rest => rest
  | budget + 1, n, rest =>
    if n < 10 then (0x30 + n) :: rest
    else digitsOnto budget (n / 10) ((0x30 + n % 10) :: rest)

def ofNat (n : Nat) : Text := digitsOnto (n + 1) n []

def ofInt : Int → Text
  | .ofNat n => ofNat n
  | .negSucc n => 0x2D :: ofNat (n + 1)

def digitsValue (digits : List Nat) : Nat := digits.foldl (fun acc d => 10 * acc + d) 0

/-- Longer rows of digits are neither read as a number nor written. -/
def digitLimit : Nat := 4300

def isWritable (i : Int) : Bool := i.natAbs < Nat.pow 10 digitLimit

inductive NumeralFault where
  | form
  | tooLong (digits : Nat)
deriving DecidableEq

def readDigits (digits : List Nat) : Except NumeralFault Nat :=
  if digitLimit < digits.length then .error (.tooLong digits.length) else .ok (digitsValue digits)

def asciiDigits? (t : Text) : Option (List Nat) :=
  if t ≠ [] && t.all isDigit then some (t.map (· - 0x30)) else none

def readInt (t : Text) : Except NumeralFault Int :=
  match t with
  | 0x2D :: rest =>
    match asciiDigits? rest with
    | some digits => (readDigits digits).map fun n => -(n : Int)
    | none => .error .form
  | _ =>
    match asciiDigits? t with
    | some digits => (readDigits digits).map Int.ofNat
    | none => .error .form

end VectorCommitment.Text
