import VectorCommitment.Text.Quoted

namespace VectorCommitment

def bigEndian : Nat → Nat → List UInt8
  | 0, _ => []
  | width + 1, n => bigEndian width (n / 256) ++ [.ofNat n]

def ofBigEndian (bytes : List UInt8) : Nat := bytes.foldl (fun acc b => 256 * acc + b.toNat) 0

theorem length_bigEndian (width n : Nat) : (bigEndian width n).length = width := by
  induction width generalizing n with
  | zero => rfl
  | succ width ih => simp [bigEndian, ih]

namespace Text

def ofBytes (bytes : List UInt8) : Text := bytes.flatMap fun b => hexDigits 2 b.toNat

def hexValue? (c : CodePoint) : Option Nat :=
  if isDigit c then some (c - 0x30)
  else if 0x61 ≤ c && c ≤ 0x66 then some (c - 0x57)
  else if 0x41 ≤ c && c ≤ 0x46 then some (c - 0x37)
  else none

def isAsciiBlank (c : CodePoint) : Bool := c = 0x20 || (0x09 ≤ c && c ≤ 0x0D)

def readHex? : Text → Option (List UInt8)
  | [] => some []
  | c :: rest =>
    if isAsciiBlank c then readHex? rest
    else
      match rest with
      | [] => none
      | d :: rest => do
        let high ← hexValue? c
        let low ← hexValue? d
        let bytes ← readHex? rest
        return UInt8.ofNat (16 * high + low) :: bytes

end Text

end VectorCommitment
