namespace VectorCommitment

/-- A position of the Unicode code space, surrogates included. -/
abbrev CodePoint := Nat

abbrev Text := List CodePoint

namespace Text

def ofString (s : String) : Text := s.toList.map Char.toNat

instance : Coe String Text := ⟨ofString⟩

def isSurrogate (c : CodePoint) : Bool := 0xD800 ≤ c && c < 0xE000

def isDigit (c : CodePoint) : Bool := 0x30 ≤ c && c ≤ 0x39

def joinWith (separator : Text) : List Text → Text
  | [] => []
  | [part] => part
  | part :: parts => part ++ separator ++ joinWith separator parts

def splitWhere (isSeparator : CodePoint → Bool) : Text → List Text
  | [] => [[]]
  | c :: rest =>
    if isSeparator c then [] :: splitWhere isSeparator rest
    else
      match splitWhere isSeparator rest with
      | [] => [[c]]
      | part :: parts => (c :: part) :: parts

def splitFirst (separator : CodePoint) (t : Text) : Text × Text :=
  (t.takeWhile (· ≠ separator), (t.dropWhile (· ≠ separator)).drop 1)

def isAscii (t : Text) : Bool := t.all (· < 0x80)

def startsWith (start t : Text) : Bool := start.isPrefixOf t

def lowerCase (t : Text) : Text := t.map fun c => if 0x41 ≤ c && c ≤ 0x5A then c + 0x20 else c

def asciiUpperForms : List (CodePoint × Text) :=
  [(0x131, "I"), (0xDF, "SS"), (0x17F, "S"), (0xFB00, "FF"), (0xFB01, "FI"), (0xFB02, "FL"),
   (0xFB03, "FFI"), (0xFB04, "FFL"), (0xFB05, "ST"), (0xFB06, "ST")]

def upperForm (c : CodePoint) : Text :=
  if 0x61 ≤ c && c ≤ 0x7A then [c - 0x20] else (asciiUpperForms.lookup c).getD [c]

def upperCase (t : Text) : Text := t.flatMap upperForm

def isHighSurrogate (c : CodePoint) : Bool := 0xD800 ≤ c && c < 0xDC00

def isLowSurrogate (c : CodePoint) : Bool := 0xDC00 ≤ c && c < 0xE000

def joinPair (high low : CodePoint) : CodePoint :=
  0x10000 + (high - 0xD800) * 0x400 + (low - 0xDC00)

def joinFrom : Option CodePoint → Text → Text
  | none, [] => []
  | some high, [] => [high]
  | none, c :: rest =>
    if isHighSurrogate c then joinFrom (some c) rest else c :: joinFrom none rest
  | some high, c :: rest =>
    if isLowSurrogate c then joinPair high c :: joinFrom none rest
    else if isHighSurrogate c then high :: joinFrom (some c) rest
    else high :: c :: joinFrom none rest

def joinSurrogates (t : Text) : Text := joinFrom none t

end Text

end VectorCommitment
