import VectorCommitment.Number.Binary64
import VectorCommitment.Text.Decimal

/-! Templates that one natural number is put into, which has to be used exactly once. -/

namespace VectorCommitment

def greatestCount : Nat := 9223372036854775807

def greatestHalf : Nat := 2147483647

def memoryLimit : Nat := 137438953472

inductive TemplateKind where
  | characters
  | bytes
deriving DecidableEq

inductive TemplateFault where
  | incomplete
  | unknownForm (shown form : CodePoint) (index : Nat)
  | widthTooBig
  | precisionTooBig (kind : TemplateKind)
  | numberTooLarge
  | outOfMemory
  | mismatch
deriving DecidableEq

namespace Template

abbrev Filling := Except TemplateFault

inductive Flag where
  | left
  | sign
  | blank
  | alternate
  | zero
deriving DecidableEq

def flags : List (CodePoint × Flag) :=
  [(0x2D, .left), (0x2B, .sign), (0x20, .blank), (0x23, .alternate), (0x30, .zero)]

structure Directive where
  flags : List Flag
  width : Nat
  precision : Option Nat
  form : CodePoint
  behindDigits : Bool

def takeFlags : Text → List Flag × Text
  | [] => ([], [])
  | c :: rest =>
    match flags.lookup c with
    | none => ([], c :: rest)
    | some flag =>
      let (others, rest) := takeFlags rest
      (flag :: others, rest)

structure Size where
  value : Option Nat
  digits : Bool
  used : Bool
  rest : Text

def takeSize (limit : Nat) (tooBig : TemplateFault) (number : Nat) (used : Bool) :
    Text → Filling Size
  | 0x2A :: rest =>
    if used then .error .mismatch
    else if limit < number then .error .numberTooLarge
    else .ok ⟨some number, false, true, rest⟩
  | t =>
    match t.takeWhile Text.isDigit with
    | [] => .ok ⟨none, false, used, t⟩
    | digits =>
      let value := Text.digitsValue (digits.map (· - 0x30))
      if limit < value then .error tooBig
      else .ok ⟨some value, true, used, t.dropWhile Text.isDigit⟩

def takePrecision (kind : TemplateKind) (number : Nat) (width : Size) : Filling Size :=
  match width.rest with
  | 0x2E :: rest => do
    let size ← takeSize greatestHalf (.precisionTooBig kind) number width.used rest
    return { size with value := some (size.value.getD 0) }
  | _ => .ok { width with value := none }

def dropLength : Text → Text
  | c :: rest => if c = 0x68 || c = 0x6C || c = 0x4C then rest else c :: rest
  | [] => []

def takeDirective (kind : TemplateKind) (number : Nat) (used : Bool) (t : Text) :
    Filling (Directive × Bool × Text) := do
  if t.head? = some 0x28 then throw .mismatch
  let (flags, rest) := takeFlags t
  let width ← takeSize greatestCount .widthTooBig number used rest
  let precision ← takePrecision kind number width
  let rest := dropLength precision.rest
  let behindDigits := precision.digits && rest.length = precision.rest.length
  match rest with
  | [] => throw .incomplete
  | form :: rest =>
    return (⟨flags, width.value.getD 0, precision.value, form, behindDigits⟩,
      precision.used, rest)

namespace Directive

def has (d : Directive) (flag : Flag) : Bool := d.flags.contains flag

def lead (d : Directive) : Text :=
  if d.has .sign then [0x2B] else if d.has .blank then [0x20] else []

def justify (d : Directive) (numeric : Bool) (start body : Text) : Filling Text :=
  let start := if numeric then d.lead ++ start else start
  let fill := d.width - (start.length + body.length)
  if memoryLimit < fill then .error .outOfMemory
  else if d.has .left then .ok (start ++ body ++ List.replicate fill 0x20)
  else if numeric && d.has .zero then .ok (start ++ List.replicate fill 0x30 ++ body)
  else .ok (List.replicate fill 0x20 ++ start ++ body)

def asText (d : Directive) (n : Nat) : Filling Text :=
  let t := Text.ofNat n
  d.justify false [] (t.take (d.precision.getD t.length))

def asCharacter (d : Directive) (kind : TemplateKind) (n : Nat) : Filling Text :=
  let greatest := match kind with
    | .characters => 0x10FFFF
    | .bytes => 0xFF
  if greatest < n then .error .numberTooLarge else d.justify false [] [n]

def baseMark (d : Directive) : Text :=
  if d.has .alternate && d.form ≠ 0x64 then [0x30, d.form] else []

def raise (c : CodePoint) : CodePoint := if 0x61 ≤ c && c ≤ 0x7A then c - 0x20 else c

def asInteger (d : Directive) (base : Nat) (n : Nat) : Filling Text :=
  let digits : Text := (Nat.toDigits base n).map Char.toNat
  let digits := if d.form = 0x58 then digits.map raise else digits
  let size := d.precision.getD 0
  if greatestHalf - 3 < size then .error .numberTooLarge
  else
    d.justify true (if base = 10 then [] else d.baseMark)
      (List.replicate (size - digits.length) 0x30 ++ digits)

def leading (n count : Nat) : Text × Nat :=
  let t := Text.ofNat n
  if t.length ≤ count then (t ++ List.replicate (count - t.length) 0x30, t.length - 1)
  else
    let rounded := Text.ofNat (Binary64.roundQuotient n (Nat.pow 10 (t.length - count)))
    (rounded.take count, if count < rounded.length then t.length else t.length - 1)

def withPlaces (d : Directive) (whole places : Text) : Text :=
  if places.isEmpty && !d.has .alternate then whole else whole ++ 0x2E :: places

def scientific (d : Directive) (digits : Text) (place : Nat) : Text :=
  let exponent := Text.ofNat place
  d.withPlaces (digits.take 1) (digits.drop 1) ++ [0x65, 0x2B] ++
    List.replicate (2 - exponent.length) 0x30 ++ exponent

def trimmed (d : Directive) (places : Text) : Text :=
  if d.has .alternate then places else (places.reverse.dropWhile (· = 0x30)).reverse

def general (d : Directive) (count n : Nat) : Text :=
  let (digits, place) :=
    leading n (if d.has .alternate then count else min count (Text.ofNat n).length)
  if place < count then
    d.withPlaces (digits.take (place + 1)) (d.trimmed (digits.drop (place + 1)))
  else d.scientific (digits.take 1 ++ d.trimmed (digits.drop 1)) place

def asFloat (d : Directive) (form : CodePoint) (n : Nat) : Filling Text :=
  let n := ((Binary64.ofQuotient false n 1).truncate?.getD 0).toNat
  let places := d.precision.getD 6
  let t :=
    if form = 0x65 then
      let (digits, place) := leading n (places + 1)
      d.scientific digits place
    else if form = 0x66 then d.withPlaces (Text.ofNat n) (List.replicate places 0x30)
    else d.general (max 1 places) n
  d.justify true [] (if d.form = form then t else t.map raise)

def unknown (d : Directive) (kind : TemplateKind) (index : Nat) : TemplateFault :=
  match kind with
  | .characters =>
    .unknownForm (if 0x1F ≤ d.form && d.form ≤ 0x7E then d.form else 0x3F) d.form index
  | .bytes =>
    if d.form < 0x80 || d.behindDigits then .unknownForm d.form d.form index
    else .numberTooLarge

def write (d : Directive) (kind : TemplateKind) (index n : Nat) : Filling Text :=
  match Char.ofNat d.form with
  | 's' => if kind = .bytes then .error .mismatch else d.asText n
  | 'b' => .error (if kind = .bytes then .mismatch else d.unknown kind index)
  | 'r' | 'a' => d.asText n
  | 'd' | 'i' | 'u' => d.asInteger 10 n
  | 'o' => d.asInteger 8 n
  | 'x' | 'X' => d.asInteger 16 n
  | 'e' | 'E' => d.asFloat 0x65 n
  | 'f' | 'F' => d.asFloat 0x66 n
  | 'g' | 'G' => d.asFloat 0x67 n
  | 'c' => d.asCharacter kind n
  | _ => .error (d.unknown kind index)

end Directive

def fillFrom (kind : TemplateKind) (number length : Nat) : Nat → Bool → Text → Filling Text
  | _, used, [] => if used then .ok [] else .error .mismatch
  | 0, _, _ => .error .incomplete
  | budget + 1, used, 0x25 :: 0x25 :: rest => do
    return 0x25 :: (← fillFrom kind number length budget used rest)
  | budget + 1, used, 0x25 :: rest => do
    let (directive, used, rest) ← takeDirective kind number used rest
    if used then throw .mismatch
    let part ← directive.write kind (length - rest.length - 1) number
    return part ++ (← fillFrom kind number length budget true rest)
  | budget + 1, used, c :: rest => do
    return c :: (← fillFrom kind number length budget used rest)

def fill (kind : TemplateKind) (number : Nat) (t : Text) : Filling Text :=
  fillFrom kind number t.length t.length false t

end Template

def TemplateFault.message? : TemplateFault → Option Text
  | incomplete => some (Text.ofString "incomplete format")
  | unknownForm shown form index =>
    some (Text.ofString "unsupported format character '" ++ shown :: Text.ofString "' (0x" ++
      (Nat.toDigits 16 form).map Char.toNat ++ Text.ofString ") at index " ++ Text.ofNat index)
  | widthTooBig => some (Text.ofString "width too big")
  | precisionTooBig .characters => some (Text.ofString "precision too big")
  | precisionTooBig .bytes => some (Text.ofString "prec too big")
  | _ => none

end VectorCommitment
