import VectorCommitment.Text.Decimal

/-! Integers as people type them: blanks around, a sign, decimal digits of any script (Unicode 14),
and single underscores between digits. -/

namespace VectorCommitment.Text

def zeroDigits : List Nat :=
  [0x30, 0x660, 0x6F0, 0x7C0, 0x966, 0x9E6, 0xA66, 0xAE6, 0xB66, 0xBE6, 0xC66, 0xCE6, 0xD66,
   0xDE6, 0xE50, 0xED0, 0xF20, 0x1040, 0x1090, 0x17E0, 0x1810, 0x1946, 0x19D0, 0x1A80, 0x1A90,
   0x1B50, 0x1BB0, 0x1C40, 0x1C50, 0xA620, 0xA8D0, 0xA900, 0xA9D0, 0xA9F0, 0xAA50, 0xABF0, 0xFF10,
   0x104A0, 0x10D30, 0x11066, 0x110F0, 0x11136, 0x111D0, 0x112F0, 0x11450, 0x114D0, 0x11650,
   0x116C0, 0x11730, 0x118E0, 0x11950, 0x11C50, 0x11D50, 0x11DA0, 0x16A60, 0x16AC0, 0x16B50,
   0x1D7CE, 0x1D7D8, 0x1D7E2, 0x1D7EC, 0x1D7F6, 0x1E140, 0x1E2F0, 0x1E950, 0x1FBF0]

def digitValue? (c : CodePoint) : Option Nat :=
  if c < 0x80 then (if isDigit c then some (c - 0x30) else none)
  else (zeroDigits.find? fun start => start ≤ c && c ≤ start + 9).map (c - ·)

def blankRuns : List (Nat × Nat) :=
  [(0x85, 0x85), (0xA0, 0xA0), (0x1680, 0x1680), (0x2000, 0x200A), (0x2028, 0x2029),
   (0x202F, 0x202F), (0x205F, 0x205F), (0x3000, 0x3000)]

def isBlank (c : CodePoint) : Bool :=
  if c < 0x80 then c = 0x20 || (0x09 ≤ c && c ≤ 0x0D)
  else blankRuns.any fun run => run.1 ≤ c && c ≤ run.2

def spanDigits (afterDigit : Bool) : Text → Option (List Nat × Text)
  | [] => if afterDigit then some ([], []) else none
  | c :: rest =>
    match digitValue? c with
    | some d => (spanDigits true rest).map fun (ds, rest) => (d :: ds, rest)
    | none =>
      if !afterDigit then none
      else if c = 0x5F then spanDigits false rest
      else some ([], c :: rest)

def takeSign : Text → Bool × Text
  | 0x2B :: rest => (false, rest)
  | 0x2D :: rest => (true, rest)
  | t => (false, t)

def readTypedInt (t : Text) : Except NumeralFault Int :=
  let (negative, unsigned) := takeSign (t.dropWhile isBlank)
  match spanDigits false unsigned with
  | none => .error .form
  | some (digits, rest) =>
    match readDigits digits with
    | .error fault => .error fault
    | .ok n => if rest.all isBlank then .ok (if negative then -(n : Int) else n) else .error .form

end VectorCommitment.Text
