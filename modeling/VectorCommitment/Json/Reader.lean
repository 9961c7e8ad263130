import VectorCommitment.Number.Binary64
import VectorCommitment.Text.Decimal
import VectorCommitment.Text.Hex
import VectorCommitment.Value.Basic

/-! Reading JSON text as plain data. The reader takes `NaN`, the infinities and lone surrogates, and
stops where the room for arrays and objects inside one another ends. -/

namespace VectorCommitment.Json

def isBlank (c : CodePoint) : Bool := c = 0x20 || c = 0x09 || c = 0x0A || c = 0x0D

def skipBlanks (t : Text) : Text := t.dropWhile isBlank

def readUnit? : Text → Option (Nat × Text)
  | a :: b :: c :: d :: rest => do
    let a ← Text.hexValue? a
    let b ← Text.hexValue? b
    let c ← Text.hexValue? c
    let d ← Text.hexValue? d
    return (0x1000 * a + 0x100 * b + 0x10 * c + d, rest)
  | _ => none

def pairUnit (unit : Nat) (rest : Text) : CodePoint × Text :=
  match rest with
  | 0x5C :: 0x75 :: behind =>
    match readUnit? behind with
    | some (low, behind) =>
      if Text.isHighSurrogate unit && Text.isLowSurrogate low then (Text.joinPair unit low, behind)
      else (unit, rest)
    | none => (unit, rest)
  | _ => (unit, rest)

def letterEscapes : List (CodePoint × CodePoint) :=
  [(0x22, 0x22), (0x5C, 0x5C), (0x2F, 0x2F), (0x62, 0x08), (0x66, 0x0C), (0x6E, 0x0A),
   (0x72, 0x0D), (0x74, 0x09)]

def readEscape? : Text → Option (CodePoint × Text)
  | [] => none
  | c :: rest =>
    if c = 0x75 then (readUnit? rest).map fun (unit, rest) => pairUnit unit rest
    else (letterEscapes.lookup c).map fun e => (e, rest)

def readString? : Nat → Text → Option (Text × Text)
  | 0, _ => none
  | _, [] => none
  | budget + 1, c :: rest =>
    if c = 0x22 then some ([], rest)
    else if c < 0x20 then none
    else do
      let (c, rest) ← if c = 0x5C then readEscape? rest else some (c, rest)
      let (t, rest) ← readString? budget rest
      return (c :: t, rest)

def spanDigits (t : Text) : List Nat × Text :=
  ((t.takeWhile Text.isDigit).map (· - 0x30), t.dropWhile Text.isDigit)

def readWhole? : Text → Option (List Nat × Text)
  | 0x30 :: rest => some ([0], rest)
  | t =>
    match spanDigits t with
    | ([], _) => none
    | found => some found

def readFraction (t : Text) : List Nat × Text :=
  match t with
  | 0x2E :: rest =>
    match spanDigits rest with
    | ([], _) => ([], t)
    | found => found
  | _ => ([], t)

def takeSign : Text → Bool × Text
  | 0x2D :: rest => (true, rest)
  | 0x2B :: rest => (false, rest)
  | t => (false, t)

def readExponent (t : Text) : Option Int × Text :=
  match t with
  | [] => (none, t)
  | e :: rest =>
    if e = 0x65 || e = 0x45 then
      let (negative, rest) := takeSign rest
      match spanDigits rest with
      | ([], _) => (none, t)
      | (digits, rest) =>
        let n : Int := Text.digitsValue digits
        (some (if negative then -n else n), rest)
    else (none, t)

def readNumber? (negative : Bool) (t : Text) : Option (Value × Text) := do
  let (whole, rest) ← readWhole? t
  let (fraction, rest) := readFraction rest
  let (exponent, rest) := readExponent rest
  match fraction, exponent with
  | [], none =>
    match Text.readDigits whole with
    | .ok n => return (.int (if negative then -(n : Int) else n), rest)
    | .error _ => none
  | fraction, exponent =>
    let digits := Text.digitsValue (whole ++ fraction)
    return (.float (.ofDecimal negative digits (exponent.getD 0 - fraction.length)), rest)

def words : List (Text × Value) :=
  [("null", .null), ("true", .bool true), ("false", .bool false),
   ("NaN", .float (.undefined (some 0))), ("Infinity", .float (.infinite false)),
   ("-Infinity", .float (.infinite true))]

def readAtom? (t : Text) : Option (Value × Text) :=
  match words.find? fun word => Text.startsWith word.1 t with
  | some (word, v) => some (v, t.drop word.length)
  | none =>
    match t with
    | 0x2D :: rest => readNumber? true rest
    | _ => readNumber? false t

def readKey? (budget : Nat) : Text → Option (Text × Text)
  | 0x22 :: rest => do
    let (key, rest) ← readString? budget rest
    match skipBlanks rest with
    | 0x3A :: rest => return (key, skipBlanks rest)
    | _ => none
  | _ => none

inductive Stop where
  | malformed
  | tooDeep
deriving DecidableEq

abbrev Reading := Except Stop

def orMalformed {α : Type} : Option α → Reading α
  | some a => .ok a
  | none => .error .malformed

mutual

/-- A value, with room for so many arrays and objects inside one another. The budget bounds the
steps; two for each character are enough. -/
def readValue : Nat → Nat → Text → Reading (Value × Text)
  | 0, _, _ => .error .malformed
  | budget + 1, room, t =>
    match t with
    | 0x22 :: rest => do
      let (s, rest) ← orMalformed (readString? budget rest)
      return (.text s, rest)
    | 0x5B :: rest =>
      match room, skipBlanks rest with
      | 0, _ => .error .tooDeep
      | _ + 1, 0x5D :: rest => .ok (.list [], rest)
      | room + 1, rest => do
        let (items, rest) ← readItems budget room rest
        return (.list items, rest)
    | 0x7B :: rest =>
      match room, skipBlanks rest with
      | 0, _ => .error .tooDeep
      | _ + 1, 0x7D :: rest => .ok (.dict [], rest)
      | room + 1, rest => do
        let (entries, rest) ← readEntries budget room [] rest
        return (.dict entries, rest)
    | t => orMalformed (readAtom? t)

def readItems : Nat → Nat → Text → Reading (List Value × Text)
  | 0, _, _ => .error .malformed
  | budget + 1, room, t => do
    let (v, rest) ← readValue budget room t
    match skipBlanks rest with
    | 0x2C :: rest =>
      let (items, rest) ← readItems budget room (skipBlanks rest)
      return (v :: items, rest)
    | 0x5D :: rest => return ([v], rest)
    | _ => throw .malformed

def readEntries : Nat → Nat → List (Text × Value) → Text → Reading (List (Text × Value) × Text)
  | 0, _, _, _ => .error .malformed
  | budget + 1, room, before, t => do
    let (key, rest) ← orMalformed (readKey? budget t)
    let (v, rest) ← readValue budget room rest
    let entries := Value.setEntry key v before
    match skipBlanks rest with
    | 0x2C :: rest => readEntries budget room entries (skipBlanks rest)
    | 0x7D :: rest => return (entries, rest)
    | _ => throw .malformed

end

def read (room : Nat) (t : Text) : Reading Value := do
  let (v, rest) ← readValue (2 * t.length + 2) room (skipBlanks t)
  if skipBlanks rest = [] then return v else throw .malformed

end VectorCommitment.Json
