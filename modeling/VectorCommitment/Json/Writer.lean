import VectorCommitment.Value.Display

namespace VectorCommitment.Json

def unitEscape (unit : Nat) : Text := Text.ofString "\\u" ++ Text.hexDigits 4 unit

def escape (c : CodePoint) : Text :=
  if c = 0x22 || c = 0x5C then [0x5C, c]
  else if 0x20 ≤ c && c < 0x7F then [c]
  else if c < 0x10000 then unitEscape c
  else unitEscape (0xD800 + (c - 0x10000) / 0x400) ++ unitEscape (0xDC00 + c % 0x400)

def writeText (t : Text) : Text := 0x22 :: t.flatMap escape ++ [0x22]

def writeFloat : Binary64 → Text
  | .undefined _ => Text.ofString "NaN"
  | .infinite negative => Text.ofString (if negative then "-Infinity" else "Infinity")
  | x => x.toText

mutual

def write : Value → Text
  | .null => Text.ofString "null"
  | .bool b => Text.ofString (if b then "true" else "false")
  | .int i => Text.ofInt i
  | .float x => writeFloat x
  | .text t => writeText t
  | .list items => Value.bracketed "[" "]" (writeAll items)
  | .tuple items => Value.bracketed "[" "]" (writeAll items)
  | .dict entries => Value.bracketed Value.braces.1 Value.braces.2 (writeEntries entries)
  | v => writeText v.display

def writeAll : List Value → List Text
  | [] => []
  | v :: vs => write v :: writeAll vs

def writeEntries : List (Text × Value) → List Text
  | [] => []
  | (key, v) :: entries => (writeText key ++ Text.ofString ": " ++ write v) :: writeEntries entries

end

end VectorCommitment.Json
