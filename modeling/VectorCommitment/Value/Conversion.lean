import VectorCommitment.Failure.Basic
import VectorCommitment.Text.TypedNumber

namespace VectorCommitment.Value

def asciiText (bs : List UInt8) : Text := bs.map fun b => if b < 0x80 then b.toNat else 0xFFFD

def typedInt (t shown : Text) : Outcome Int :=
  match Text.readTypedInt t with
  | .ok i => .ok i
  | .error .form => refuse (.notInteger shown)
  | .error (.tooLong digits) => refuse (.tooManyDigits digits)

def toInt : Value → Outcome Int
  | int i => .ok i
  | bool b => .ok (if b then 1 else 0)
  | scalar residue => .ok residue
  | coordinate x => .ok x.val
  | float x =>
    match x.truncate? with
    | some i => .ok i
    | none => if x.isUndefined then refuse .undefinedNumber else refuse .infiniteNumber
  | text t => typedInt t (Text.quoted t)
  | bytes bs | byteArray bs | memoryView _ bs => typedInt (asciiText bs) (Text.quotedBytes bs)
  | _ => refuse .wrongType

def writeInt (i : Int) : Outcome Text :=
  if Text.isWritable i then .ok (Text.ofInt i) else refuse .unwritable

def writeDisplay (v : Value) : Outcome Text :=
  if v.isWritable then .ok v.display else refuse .unwritable

def write : Value → Outcome Text
  | text t => .ok t
  | v => v.writeDisplay

def members : Value → Except Fault (List Value)
  | list items => .ok items
  | tuple items => .ok items
  | text t => .ok (t.map fun c => text [c])
  | bytes bs | byteArray bs | memoryView _ bs => .ok (bs.map fun b => int b.toNat)
  | dict entries => .ok (entries.map fun entry => text entry.1)
  | v => .error (.notIterable v.typeName)

def size? : Value → Option Nat
  | list items => some items.length
  | tuple items => some items.length
  | text t => some t.length
  | bytes bs | byteArray bs | memoryView _ bs => some bs.length
  | dict entries => some entries.length
  | _ => none

def pair (v : Value) : Outcome (Value × Value) :=
  match v.members with
  | .error _ => refuse .wrongType
  | .ok [a, b] => .ok (a, b)
  | .ok [] => refuse (.pairTooShort 0)
  | .ok [_] => refuse (.pairTooShort 1)
  | .ok _ => refuse .pairTooLong

def toByte : Value → Outcome UInt8
  | int i => if 0 ≤ i ∧ i < 256 then .ok (.ofNat i.toNat) else refuse .byteOutside
  | bool b => .ok (if b then 1 else 0)
  | _ => refuse .wrongType

def fitsWord (i : Int) : Bool := -(greatestCount : Int) - 1 ≤ i && i ≤ greatestCount

def byteFrame : Nat := 33

def toCount (i : Int) : Outcome Nat :=
  if !fitsWord i then refuse .countOutside
  else if i < 0 then refuse .negativeCount
  else if greatestCount - byteFrame < i.toNat then refuse .countOutside
  else if memoryLimit < i.toNat then refuse .outOfMemory
  else .ok i.toNat

def toBytes : Value → Outcome (List UInt8)
  | bytes bs | byteArray bs | memoryView _ bs => .ok bs
  | int i => do return List.replicate (← toCount i) 0
  | bool b => .ok (if b then [0] else [])
  | list items => items.mapM toByte
  | tuple items => items.mapM toByte
  | dict entries => entries.mapM fun entry => toByte (text entry.1)
  | _ => refuse .wrongType

def byteCount : Value → Outcome Nat
  | int i => toCount i
  | v => do return (← v.toBytes).length

def position? (index : Int) (length : Nat) : Option Nat :=
  let index := if index < 0 then index + length else index
  if 0 ≤ index ∧ index < length then some index.toNat else none

def itemAt (items : List Value) (index : Int) : Outcome Value :=
  match (position? index items.length).bind fun k => items[k]? with
  | some v => .ok v
  | none => refuse .indexOutside

def item (v key : Value) : Outcome Value :=
  match v with
  | dict entries =>
    match key with
    | text name =>
      match lookup? name entries with
      | some v => .ok v
      | none => refuse (.missingKey key)
    | list _ | dict _ | byteArray _ => refuse .wrongType
    | _ => refuse (.missingKey key)
  | list _ | tuple _ | text _ | bytes _ | byteArray _ | memoryView .. =>
    match key.integer?, v.members with
    | some index, .ok items => itemAt items index
    | _, _ => refuse .wrongType
  | _ => refuse .wrongType

end VectorCommitment.Value
