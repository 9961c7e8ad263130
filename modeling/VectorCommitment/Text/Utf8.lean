import VectorCommitment.Text.Basic

namespace VectorCommitment.Text

def encodeCodePoint (c : CodePoint) : List UInt8 :=
  if c < 0x80 then [.ofNat c]
  else if c < 0x800 then [.ofNat (0xC0 + c / 0x40), .ofNat (0x80 + c % 0x40)]
  else if c < 0x10000 then
    [.ofNat (0xE0 + c / 0x1000), .ofNat (0x80 + c / 0x40 % 0x40), .ofNat (0x80 + c % 0x40)]
  else
    [.ofNat (0xF0 + c / 0x40000), .ofNat (0x80 + c / 0x1000 % 0x40),
     .ofNat (0x80 + c / 0x40 % 0x40), .ofNat (0x80 + c % 0x40)]

def encodeUtf8? (t : Text) : Option (List UInt8) :=
  if t.any isSurrogate then none else some (t.flatMap encodeCodePoint)

def following? (surrogates : Bool) (lead : Nat) : Option (Nat × Nat × Nat) :=
  if 0xC2 ≤ lead && lead ≤ 0xDF then some (1, 0x80, 0xBF)
  else if lead = 0xE0 then some (2, 0xA0, 0xBF)
  else if lead = 0xED then some (2, 0x80, if surrogates then 0xBF else 0x9F)
  else if 0xE1 ≤ lead && lead ≤ 0xEF then some (2, 0x80, 0xBF)
  else if lead = 0xF0 then some (3, 0x90, 0xBF)
  else if 0xF1 ≤ lead && lead ≤ 0xF3 then some (3, 0x80, 0xBF)
  else if lead = 0xF4 then some (3, 0x80, 0x8F)
  else none

def leadBits (lead following : Nat) : Nat :=
  if following = 1 then lead % 0x20 else if following = 2 then lead % 0x10 else lead % 0x08

/-- Reads bytes, with the code point begun so far, the number of bytes that it still needs and the
range of the next one. A sequence that breaks off gives one replacement character, and reading goes
on at the byte that broke it. -/
def decodeFrom (surrogates : Bool) (begun needed low high : Nat) : List UInt8 → Text
  | [] => if needed = 0 then [] else [0xFFFD]
  | b :: rest =>
    let n := b.toNat
    if needed ≠ 0 && low ≤ n && n ≤ high then
      let begun := begun * 0x40 + n % 0x40
      if needed = 1 then begun :: decodeFrom surrogates 0 0 0 0 rest
      else decodeFrom surrogates begun (needed - 1) 0x80 0xBF rest
    else
      let broken : Text := if needed = 0 then [] else [0xFFFD]
      if n < 0x80 then broken ++ n :: decodeFrom surrogates 0 0 0 0 rest
      else
        match following? surrogates n with
        | some (following, low, high) =>
          broken ++ decodeFrom surrogates (leadBits n following) following low high rest
        | none => broken ++ 0xFFFD :: decodeFrom surrogates 0 0 0 0 rest

def decodeUtf8 (bytes : List UInt8) : Text := decodeFrom false 0 0 0 0 bytes

/-- The text that bytes encode, if they are well-formed but for surrogates, which pass alone and
side by side. -/
def decodeUtf8? (bytes : List UInt8) : Option Text :=
  let t := decodeFrom true 0 0 0 0 bytes
  if t.flatMap encodeCodePoint = bytes then some t else none

end VectorCommitment.Text
