import VectorCommitment.Text.Decimal
import VectorCommitment.Text.Hex
import VectorCommitment.Text.Punycode

namespace VectorCommitment.Http

def isByteNumeral (t : Text) : Bool :=
  match t with
  | [] => false
  | first :: rest =>
    t.all Text.isDigit && (first ≠ 0x30 || rest.isEmpty) &&
      Text.digitsValue (t.map (· - 0x30)) < 256

def isShortAddress (t : Text) : Bool :=
  let parts := Text.splitWhere (· = 0x2E) t
  parts.length = 4 && parts.all isByteNumeral

def isHexGroup (t : Text) : Bool :=
  !t.isEmpty && t.length ≤ 4 && t.all fun c => (Text.hexValue? c).isSome

def groups (t : Text) : List Text :=
  let parts := Text.splitWhere (· = 0x3A) t
  match parts.getLast? with
  | some last =>
    if isShortAddress last then parts.dropLast ++ [Text.ofString "0", Text.ofString "0"] else parts
  | none => parts

def sideSize? (side : List Text) : Option Nat :=
  if side = [[]] then some 0 else if side.all isHexGroup then some side.length else none

def splitGap? : List Text → Option (List Text × List Text)
  | first :: [] :: second :: rest => some ([first], second :: rest)
  | first :: rest => (splitGap? rest).map fun (before, behind) => (first :: before, behind)
  | [] => none

def isPlainAddress (t : Text) : Bool :=
  let all := groups t
  match splitGap? all with
  | none => all.length = 8 && all.all isHexGroup
  | some (before, behind) =>
    match sideSize? before, sideSize? behind with
    | some m, some n => m + n < 8
    | _, _ => false

def isLongAddress (t : Text) : Bool :=
  let (address, zone) := Text.splitFirst 0x25 t
  isPlainAddress address && (!t.contains 0x25 || (!zone.isEmpty && !zone.contains 0x25))

def isFutureAddress (t : Text) : Bool :=
  let version := (t.drop 1).takeWhile fun c => (Text.hexValue? c).isSome
  !version.isEmpty &&
    match t.drop (version.length + 1) with
    | 0x2E :: _ :: _ => true
    | _ => false

def inRuns (runs : List (Nat × Nat)) (c : CodePoint) : Bool :=
  runs.any fun run => run.1 ≤ c && c ≤ run.2

def ignoredRuns : List (Nat × Nat) :=
  [(0xAD, 0xAD), (0x34F, 0x34F), (0x1806, 0x1806), (0x180B, 0x180D), (0x200B, 0x200D),
   (0x2060, 0x2060), (0xFE00, 0xFE0F), (0xFEFF, 0xFEFF)]

def forbiddenRuns : List (Nat × Nat) :=
  [(0x80, 0x9F), (0x6DD, 0x6DD), (0x70F, 0x70F), (0x1680, 0x1680), (0x180E, 0x180E),
   (0x200E, 0x200F), (0x2028, 0x202E), (0x2061, 0x2063), (0x206A, 0x206F), (0x2FF0, 0x2FFB),
   (0xD800, 0xF8FF), (0xFDD0, 0xFDEF), (0xFFF9, 0xFFFF), (0x1D173, 0x1D17A), (0x1FFFE, 0x1FFFF),
   (0x2FFFE, 0x2FFFF), (0x3FFFE, 0x3FFFF), (0x4FFFE, 0x4FFFF), (0x5FFFE, 0x5FFFF),
   (0x6FFFE, 0x6FFFF), (0x7FFFE, 0x7FFFF), (0x8FFFE, 0x8FFFF), (0x9FFFE, 0x9FFFF),
   (0xAFFFE, 0xAFFFF), (0xBFFFE, 0xBFFFF), (0xCFFFE, 0xCFFFF), (0xDFFFE, 0xDFFFF),
   (0xE0001, 0xE0001), (0xE0020, 0xE007F), (0xEFFFE, 0x10FFFF)]

def leftwardRuns : List (Nat × Nat) :=
  [(0x5BE, 0x5BE), (0x5C0, 0x5C0), (0x5C3, 0x5C3), (0x5D0, 0x5EA), (0x5F0, 0x5F4), (0x61B, 0x61B),
   (0x61F, 0x61F), (0x621, 0x63A), (0x640, 0x64A), (0x66D, 0x66F), (0x671, 0x6D5), (0x6E5, 0x6E6),
   (0x6FA, 0x6FE), (0x700, 0x70D), (0x710, 0x710), (0x712, 0x72C), (0x780, 0x7A5), (0x7B1, 0x7B1),
   (0xFB1D, 0xFB1D), (0xFB1F, 0xFB28), (0xFB2A, 0xFB36), (0xFB38, 0xFB3C), (0xFB3E, 0xFB3E),
   (0xFB40, 0xFB41), (0xFB43, 0xFB44), (0xFB46, 0xFBB1), (0xFBD3, 0xFD3D), (0xFD50, 0xFD8F),
   (0xFD92, 0xFDC7), (0xFDF0, 0xFDFC), (0xFE70, 0xFE74), (0xFE76, 0xFEFC)]

def isLetter (c : CodePoint) : Bool := (0x41 ≤ c && c ≤ 0x5A) || (0x61 ≤ c && c ≤ 0x7A)

def hasOneDirection (label : Text) : Bool :=
  !label.any (inRuns leftwardRuns) ||
    (!label.any isLetter && (label.head?.any (inRuns leftwardRuns)) &&
      (label.getLast?.any (inRuns leftwardRuns)))

def fitting? (label : Text) : Option Text :=
  if 0 < label.length && label.length < 64 then some label else none

def punycodeMark : Text := "xn--"

def specialForms : List (CodePoint × Text) :=
  [(0xDF, "ss"), (0x17F, "s"), (0x3C2, [0x3C3]), (0x2024, "."), (0x2025, ".."), (0x2026, "..."),
   (0xFE30, ".."), (0xFE52, ".")]

def foldForm (c : CodePoint) : Text :=
  if inRuns ignoredRuns c then []
  else if 0xFF01 ≤ c && c ≤ 0xFF5E then Text.lowerCase [c - 0xFEE0]
  else (specialForms.lookup c).getD (Text.lowerCase [c])

def encodeLabel? (label : Text) : Option Text :=
  let folded := label.flatMap foldForm
  if Text.isAscii folded then fitting? folded
  else if folded.any (inRuns forbiddenRuns) || !hasOneDirection folded ||
      Text.startsWith punycodeMark folded then none
  else fitting? (punycodeMark ++ Text.Punycode.encode folded)

def asciiLabel? (label : Text) : Option Text :=
  if Text.isAscii label then fitting? label else encodeLabel? label

def isLabelDot (c : CodePoint) : Bool := c = 0x2E || c = 0x3002 || c = 0xFF0E || c = 0xFF61

def labels (name : Text) : List Text :=
  if Text.isAscii name then Text.splitWhere (· = 0x2E) name else Text.splitWhere isLabelDot name

def asciiLabels? : List Text → Option (List Text)
  | [] => some []
  | [[]] => some [[]]
  | label :: rest => do return (← asciiLabel? label) :: (← asciiLabels? rest)

def asciiName? (name : Text) : Option Text :=
  (asciiLabels? (labels name)).map (Text.joinWith ".")

def isHostName (name : Text) : Bool := (asciiName? name).isSome

end VectorCommitment.Http
