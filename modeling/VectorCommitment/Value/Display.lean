import VectorCommitment.Number.Shortest
import VectorCommitment.Text.Quoted
import VectorCommitment.Value.Basic

namespace VectorCommitment.Value

def comma : Text := Text.ofString ", "

def bracketed (opening closing : String) (parts : List Text) : Text :=
  Text.ofString opening ++ Text.joinWith comma parts ++ Text.ofString closing

def parenthesized : List Text → Text
  | [part] => Text.ofString "(" ++ part ++ Text.ofString ",)"
  | parts => bracketed "(" ")" parts

def braces : String × String := ("\x7b", "\x7d")

mutual

def display : Value → Text
  | null => Text.ofString "None"
  | bool b => Text.ofString (if b then "True" else "False")
  | int i => Text.ofInt i
  | float x => x.toText
  | text t => Text.quoted t
  | bytes bs => Text.quotedBytes bs
  | byteArray bs => Text.ofString "bytearray(" ++ Text.quotedByteArray bs ++ Text.ofString ")"
  | memoryView address _ =>
    Text.ofString "<memory at " ++ Text.ofAddress address ++ Text.ofString ">"
  | list items => bracketed "[" "]" (displayAll items)
  | tuple items => parenthesized (displayAll items)
  | dict entries => bracketed braces.1 braces.2 (displayEntries entries)
  | scalar residue => Text.ofNat residue
  | coordinate x => Text.ofNat x.val
  | quadratic x => parenthesized [Text.ofNat x.re.val, Text.ofNat x.im.val]
  | target x => parenthesized (x.coeffs.map fun c => Text.ofNat c.val)
  | prover capacity g =>
    Text.ofString "ProverParam(capacity=" ++ Text.ofNat capacity ++ Text.ofString ", len(g)=" ++
      Text.ofNat g.length ++ Text.ofString ")"
  | verifier capacity h _ =>
    Text.ofString "VerifierParam(capacity=" ++ Text.ofNat capacity ++ Text.ofString ", len(h)=" ++
      Text.ofNat h.length ++ Text.ofString ")"

def displayAll : List Value → List Text
  | [] => []
  | v :: vs => v.display :: displayAll vs

def displayEntries : List (Text × Value) → List Text
  | [] => []
  | (key, v) :: entries =>
    (Text.quoted key ++ Text.ofString ": " ++ v.display) :: displayEntries entries

end

mutual

def isWritable : Value → Bool
  | int i => Text.isWritable i
  | list items => allWritable items
  | tuple items => allWritable items
  | dict entries => entriesWritable entries
  | prover capacity _ => Text.isWritable capacity
  | verifier capacity .. => Text.isWritable capacity
  | _ => true

def allWritable : List Value → Bool
  | [] => true
  | v :: vs => v.isWritable && allWritable vs

def entriesWritable : List (Text × Value) → Bool
  | [] => true
  | (_, v) :: entries => v.isWritable && entriesWritable entries

end

def toText : Value → Text
  | text t => t
  | v => v.display

end VectorCommitment.Value
