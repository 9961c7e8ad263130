import VectorCommitment.Text.Hex
import VectorCommitment.Value.Points

/-! Points of the first group as 64 bytes: both coordinates in 32 bytes, the highest first, and
zeros for infinity, which no point of the curve has as coordinates. -/

namespace VectorCommitment

def encodedSize : Nat := 64

namespace G1

def encode : G1 → List UInt8
  | .infinity => List.replicate encodedSize 0
  | .affine x y => bigEndian 32 x.val ++ bigEndian 32 y.val

def decode (bytes : List UInt8) : Except Rejection G1 :=
  if bytes.length ≠ encodedSize then .error (.encodingLength bytes.length)
  else if bytes = List.replicate encodedSize 0 then .ok .infinity
  else
    let x := ofBigEndian (bytes.take 32)
    let y := ofBigEndian (bytes.drop 32)
    if x ≥ fieldModulus ∨ y ≥ fieldModulus then .error .coordinateOutside
    else
      let p : G1 := .affine (.ofNat x) (.ofNat y)
      if p.isOnCurve then .ok p else .error .encodedOffCurve

end G1

def encodePoint (p : Value) : Outcome (List UInt8) :=
  match p.curvePoint? with
  | some q => .ok q.encode
  | none => reject (.notPoint p)

def decodeBytes (bytes : List UInt8) : Outcome Value :=
  match G1.decode bytes with
  | .ok p => .ok (.ofG1 p)
  | .error cause => reject cause

def decodePoint (data : Value) : Outcome Value := do
  let size ← data.byteCount
  if size = encodedSize then decodeBytes (← data.toBytes) else reject (.encodingLength size)

def pointOfBytes (data : Value) : Outcome Value :=
  match data.octets? with
  | some bs => decodeBytes bs
  | none => reject (.notBytes data.typeName)

def pointToHex (p : Value) : Outcome Text := do return Text.ofBytes (← encodePoint p)

def pointOfHex : Value → Outcome Value
  | .text t =>
    match Text.readHex? t with
    | some bytes => decodeBytes bytes
    | none => reject (.notHex t)
  | _ => reject .hexNotText

def pointShort (p : Value) : Outcome Text :=
  match p with
  | .null => .ok (Text.ofString "O (infinity)")
  | p => do
    let x ← Value.writeInt (← (← p.item (.int 0)).toInt)
    return Text.ofString "(" ++ x.take 8 ++ Text.ofString "..." ++ x.drop (x.length - 4) ++
      Text.ofString ", ...)"

end VectorCommitment
