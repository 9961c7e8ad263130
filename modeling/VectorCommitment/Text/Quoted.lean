import VectorCommitment.Text.Printable

namespace VectorCommitment.Text

def hexDigit (n : Nat) : CodePoint := if n < 10 then 0x30 + n else 0x57 + n

def hexDigits : Nat → Nat → Text
  | 0, _ => []
  | width + 1, n => hexDigits width (n / 16) ++ [hexDigit (n % 16)]

def quoteFor (content : Text) : CodePoint :=
  if content.contains 0x27 && !content.contains 0x22 then 0x22 else 0x27

def sharedEscape? (quote c : CodePoint) : Option Text :=
  if c = quote || c = 0x5C then some [0x5C, c]
  else if c = 0x09 then some (ofString "\\t")
  else if c = 0x0A then some (ofString "\\n")
  else if c = 0x0D then some (ofString "\\r")
  else none

def escape (quote c : CodePoint) : Text :=
  match sharedEscape? quote c with
  | some t => t
  | none =>
    if isPrintable c then [c]
    else if c < 0x100 then ofString "\\x" ++ hexDigits 2 c
    else if c < 0x10000 then ofString "\\u" ++ hexDigits 4 c
    else ofString "\\U" ++ hexDigits 8 c

def quoted (t : Text) : Text :=
  let quote := quoteFor t
  quote :: t.flatMap (escape quote) ++ [quote]

def escapeByte (quote : CodePoint) (b : UInt8) : Text :=
  match sharedEscape? quote b.toNat with
  | some t => t
  | none =>
    if 0x20 ≤ b.toNat && b.toNat < 0x7F then [b.toNat]
    else ofString "\\x" ++ hexDigits 2 b.toNat

def bytesBetween (quote escaped : CodePoint) (bytes : List UInt8) : Text :=
  0x62 :: quote :: bytes.flatMap (escapeByte escaped) ++ [quote]

def quotedBytes (bytes : List UInt8) : Text :=
  let quote := quoteFor (bytes.map (·.toNat))
  bytesBetween quote quote bytes

def quotedByteArray (bytes : List UInt8) : Text :=
  bytesBetween (quoteFor (bytes.map (·.toNat))) 0x27 bytes

def ofAddress (n : Nat) : Text := ofString "0x" ++ hexDigits (n.log2 / 4 + 1) n

end VectorCommitment.Text
