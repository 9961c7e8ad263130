import VectorCommitment.Json.Reader
import VectorCommitment.Text.Utf8

/-! JSON text in bytes. A mark in front or the places of zeros among the first four bytes tell the
encoding, since JSON text begins with ASCII characters. -/

namespace VectorCommitment.Json

inductive Encoding where
  | utf8
  | utf16 (highFirst : Bool)
  | utf32 (highFirst : Bool)
deriving DecidableEq

def marks : List (List UInt8 × Encoding) :=
  [([0x00, 0x00, 0xFE, 0xFF], .utf32 true), ([0xFF, 0xFE, 0x00, 0x00], .utf32 false),
   ([0xFE, 0xFF], .utf16 true), ([0xFF, 0xFE], .utf16 false), ([0xEF, 0xBB, 0xBF], .utf8)]

def encodingByZeros : List UInt8 → Encoding
  | a :: b :: c :: d :: _ =>
    if a = 0 then (if b = 0 then .utf32 true else .utf16 true)
    else if b = 0 then (if c = 0 && d = 0 then .utf32 false else .utf16 false)
    else .utf8
  | [a, b] => if a = 0 then .utf16 true else if b = 0 then .utf16 false else .utf8
  | _ => .utf8

def detect (bytes : List UInt8) : Encoding × List UInt8 :=
  match marks.find? fun mark => mark.1.isPrefixOf bytes with
  | some (mark, encoding) => (encoding, bytes.drop mark.length)
  | none => (encodingByZeros bytes, bytes)

def units16? (highFirst : Bool) : List UInt8 → Option (List Nat)
  | [] => some []
  | a :: b :: rest => do
    let units ← units16? highFirst rest
    return (if highFirst then 0x100 * a.toNat + b.toNat else 0x100 * b.toNat + a.toNat) :: units
  | _ => none

def units32? (highFirst : Bool) : List UInt8 → Option (List Nat)
  | [] => some []
  | a :: b :: c :: d :: rest => do
    let units ← units32? highFirst rest
    let join (a b c d : UInt8) : Nat :=
      0x1000000 * a.toNat + 0x10000 * b.toNat + 0x100 * c.toNat + d.toNat
    return (if highFirst then join a b c d else join d c b a) :: units
  | _ => none

def decode? (bytes : List UInt8) : Option Text :=
  match detect bytes with
  | (.utf8, bytes) => Text.decodeUtf8? bytes
  | (.utf16 highFirst, bytes) => (units16? highFirst bytes).map Text.joinSurrogates
  | (.utf32 highFirst, bytes) => do
    let units ← units32? highFirst bytes
    if units.all (· < 0x110000) then return units else none

def readBytes (room : Nat) (bytes : List UInt8) : Reading Value := do
  read room (← orMalformed (decode? bytes))

end VectorCommitment.Json
