import VectorCommitment.Field.Target
import VectorCommitment.Number.Binary64
import VectorCommitment.Text.Basic

namespace VectorCommitment

/-- A value: plain data, a field element, a parameter record, or a collection of values. A point is
a pair of coordinates and infinity is `null`. -/
inductive Value where
  | null
  | bool (b : Bool)
  | int (i : Int)
  | float (x : Binary64)
  | text (t : Text)
  | bytes (bs : List UInt8)
  | byteArray (bs : List UInt8)
  | memoryView (address : Nat) (bs : List UInt8)
  | list (items : List Value)
  | tuple (items : List Value)
  | dict (entries : List (Text × Value))
  | scalar (residue : Nat)
  | coordinate (x : Fp)
  | quadratic (x : Fp2)
  | target (x : Target)
  | prover (capacity : Nat) (g : List Value)
  | verifier (capacity : Nat) (h : List Value) (t : Value)

namespace Value

instance : Inhabited Value := ⟨null⟩

def typeName : Value → String
  | null => "NoneType"
  | bool _ => "bool"
  | int _ => "int"
  | float _ => "float"
  | text _ => "str"
  | bytes _ => "bytes"
  | byteArray _ => "bytearray"
  | memoryView .. => "memoryview"
  | list _ => "list"
  | tuple _ => "tuple"
  | dict _ => "dict"
  | scalar _ => "FR"
  | coordinate _ => "bn128_FQ"
  | quadratic _ => "bn128_FQ2"
  | target _ => "bn128_FQ12"
  | prover .. => "ProverParam"
  | verifier .. => "VerifierParam"

def isTruthy : Value → Bool
  | null => false
  | bool b => b
  | int i => i ≠ 0
  | float (.finite _ mantissa _) => mantissa ≠ 0
  | text t => t ≠ []
  | bytes bs | byteArray bs | memoryView _ bs => bs ≠ []
  | list items => !items.isEmpty
  | tuple items => !items.isEmpty
  | dict entries => !entries.isEmpty
  | _ => true

def octets? : Value → Option (List UInt8)
  | bytes bs | byteArray bs | memoryView _ bs => some bs
  | _ => none

def integer? : Value → Option Int
  | bool b => some (if b then 1 else 0)
  | int i => some i
  | _ => none

def lookup? (key : Text) (entries : List (Text × Value)) : Option Value :=
  (entries.find? fun entry => entry.1 = key).map (·.2)

def setEntry (key : Text) (v : Value) : List (Text × Value) → List (Text × Value)
  | [] => [(key, v)]
  | entry :: entries =>
    if entry.1 = key then (key, v) :: entries else entry :: setEntry key v entries

end Value

end VectorCommitment
