import VectorCommitment.Curve.Pairing
import VectorCommitment.Failure.Kind
import VectorCommitment.Text.Template
import VectorCommitment.Value.Display

/-! Why an operation fails. A rejection is a library error, with a kind; a fault is an error of the
values handed in that the library leaves as it is. How deep the stack is goes beyond the model: any
nested value is displayed in a message, and only the reader of request bodies has a bound. -/

namespace VectorCommitment

inductive Rejection where
  | vectorNotIterable (typeName : String)
  | notMessageUnit (v : Value)
  | positionNotInteger (v : Value)
  | commitmentNotPoint
  | witnessNotPoint
  | bodyNotObject
  | fieldMissing (name : Text)
  | capacityNotInteger (v : Value)
  | vectorTooLong (length capacity : Nat)
  | positionOutside (position : Int) (capacity : Nat)
  | windowOutside (position start stop length : Nat)
  | setupBelowOne (capacity : Int)
  | capacityAboveLimit (capacity : Int) (limit : Value)
  | openedZero (position : Nat)
  | verifiedZero
  | capacityBelowOne (capacity : Int)
  | proverTooShort (length capacity : Nat)
  | verifierTooShort (length capacity : Nat)
  | targetMissing
  | capacitiesDiffer (prover verifier : Nat)
  | notPoint (v : Value)
  | encodingLength (length : Nat)
  | coordinateOutside
  | encodedOffCurve
  | notBytes (typeName : String)
  | notScalarNumber (v : Value)
  | notCoordinateNumber (v : Value)
  | scalarsNotList
  | curvePointNotPair (v : Value)
  | twistPointNotPair (v : Value)
  | quadraticNotPair (v : Value)
  | pointOffCurve
  | pointOffTwist
  | targetNotTwelve (size : Nat ⊕ String)
  | hexNotText
  | notHex (t : Text)

namespace Rejection

def kind : Rejection → ErrorKind
  | vectorNotIterable _ | notMessageUnit _ | positionNotInteger _ | commitmentNotPoint
  | witnessNotPoint | bodyNotObject | fieldMissing _ | capacityNotInteger _ => .invalidInput
  | vectorTooLong .. | positionOutside .. | windowOutside .. | setupBelowOne _
  | capacityAboveLimit .. => .capacityExceeded
  | openedZero _ | verifiedZero => .invalidScalar
  | capacityBelowOne _ | proverTooShort .. | verifierTooShort .. | targetMissing
  | capacitiesDiffer .. => .parameterMismatch
  | _ => .serialization

private def sentence (parts : List Text) : Text := parts.flatten

private def str : String → Text := Text.ofString

private def num (n : Nat) : Text := Text.ofNat n

def message : Rejection → Text
  | vectorNotIterable typeName =>
    sentence [str "'", str typeName, str "' object is not iterable"]
  | notMessageUnit v => sentence [str "메시지 유닛은 정수 또는 FR이어야 합니다: ", v.display]
  | positionNotInteger v => sentence [str "위치는 정수여야 합니다: ", v.display]
  | commitmentNotPoint => str "커밋먼트가 G1 점이 아닙니다"
  | witnessNotPoint => str "witness가 G1 점이 아닙니다"
  | bodyNotObject => str "JSON 객체 본문이 필요합니다"
  | fieldMissing name => sentence [str "필드 '", name, str "'가 없습니다"]
  | capacityNotInteger v => sentence [str "용량은 정수여야 합니다: ", v.display]
  | vectorTooLong length capacity =>
    sentence [str "입력 길이 ", num length, str "가 용량 ", num capacity, str "를 초과합니다"]
  | positionOutside position capacity =>
    sentence [str "위치 ", Text.ofInt position, str "가 [0, ", num capacity,
      str ") 범위를 벗어났습니다"]
  | windowOutside position start stop length =>
    sentence [str "위치 ", num position, str "의 창 g[", num start, str ":", num stop,
      str "]가 g의 길이 ", num length, str "를 벗어납니다"]
  | setupBelowOne capacity | capacityBelowOne capacity =>
    sentence [str "용량은 1 이상이어야 합니다: ", Text.ofInt capacity]
  | capacityAboveLimit capacity limit =>
    sentence [str "용량 ", Text.ofInt capacity, str "가 허용 최대값 ", limit.toText, str "를 넘습니다"]
  | openedZero position =>
    sentence [str "위치 ", num position, str "의 값이 0이므로 열 수 없습니다"]
  | verifiedZero => str "값 0은 역원이 없어 검증할 수 없습니다"
  | proverTooShort length capacity =>
    sentence [str "g의 길이 ", num length, str "가 2N-1 = ", num (2 * capacity - 1),
      str "보다 작습니다"]
  | verifierTooShort length capacity =>
    sentence [str "h의 길이 ", num length, str "가 N = ", num capacity, str "보다 작습니다"]
  | targetMissing => str "검증 기준값 t가 없습니다"
  | capacitiesDiffer prover verifier =>
    sentence [str "Prover 용량 ", num prover, str "와 Verifier 용량 ", num verifier,
      str "가 다릅니다"]
  | notPoint v => sentence [str "G1 점이 아닙니다: ", v.display]
  | encodingLength length =>
    sentence [str "G1 인코딩은 64바이트여야 합니다: ", num length, str "바이트"]
  | coordinateOutside => str "좌표가 베이스 필드 범위를 벗어났습니다"
  | encodedOffCurve => str "곡선 위의 점이 아닙니다"
  | notBytes typeName => sentence [str "bytes가 필요합니다: ", str typeName]
  | notScalarNumber v => sentence [str "FR 값이 아닙니다: ", v.display]
  | notCoordinateNumber v => sentence [str "좌표 값이 아닙니다: ", v.display]
  | scalarsNotList => str "FR 리스트가 필요합니다"
  | curvePointNotPair v =>
    sentence [str "G1 점는 원소 2개짜리 리스트여야 합니다: ", v.display]
  | twistPointNotPair v =>
    sentence [str "G2 점는 원소 2개짜리 리스트여야 합니다: ", v.display]
  | quadraticNotPair v =>
    sentence [str "FQ2 좌표는 원소 2개짜리 리스트여야 합니다: ", v.display]
  | pointOffCurve => str "G1 곡선 위의 점이 아닙니다"
  | pointOffTwist => str "G2 트위스트 곡선 위의 점이 아닙니다"
  | targetNotTwelve (.inl size) => sentence [str "GT 원소는 계수 12개여야 합니다: ", num size]
  | targetNotTwelve (.inr typeName) =>
    sentence [str "GT 원소는 계수 12개여야 합니다: ", str typeName]
  | hexNotText => str "hex 문자열이 필요합니다"
  | notHex t => sentence [str "hex 문자열이 아닙니다: ", Text.quoted t]

def isWritable : Rejection → Bool
  | notMessageUnit v | positionNotInteger v | capacityNotInteger v | notPoint v
  | notScalarNumber v | notCoordinateNumber v | curvePointNotPair v | twistPointNotPair v
  | quadraticNotPair v => v.isWritable
  | positionOutside i _ | setupBelowOne i | capacityBelowOne i => Text.isWritable i
  | capacityAboveLimit i limit => Text.isWritable i && limit.isWritable
  | proverTooShort _ capacity => Text.isWritable (2 * capacity - 1 : Nat)
  | verifierTooShort _ capacity => Text.isWritable capacity
  | _ => true

end Rejection

inductive Fault where
  | wrongType
  | notIterable (typeName : String)
  | notMessageUnit (v : Value)
  | noField
  | missingKey (key : Value)
  | indexOutside
  | notInteger (shown : Text)
  | tooManyDigits (digits : Nat)
  | unwritable
  | undefinedNumber
  | infiniteNumber
  | numberTooLarge
  | zeroDivision
  | negativeCount
  | countOutside
  | outOfMemory
  | byteOutside
  | pairTooShort (size : Nat)
  | pairTooLong
  | lengthsDiffer (points scalars : Nat)
  | pairing (fault : PairingFault)
  | chordMissed
  | template (fault : TemplateFault)
  | unencodable
  | tooDeep
  | unknownLevel (name : Text)

namespace Fault

def name : Fault → String
  | wrongType | notIterable _ | notMessageUnit _ | template .mismatch => "TypeError"
  | noField => "AttributeError"
  | missingKey _ => "KeyError"
  | indexOutside => "IndexError"
  | infiniteNumber | numberTooLarge | countOutside | template .numberTooLarge => "OverflowError"
  | outOfMemory | template .outOfMemory => "MemoryError"
  | zeroDivision => "ZeroDivisionError"
  | unencodable => "UnicodeEncodeError"
  | tooDeep => "RecursionError"
  | _ => "ValueError"

def shownLimit : Nat := 200

def message? : Fault → Option Text
  | notMessageUnit v => some (Rejection.notMessageUnit v).message
  | missingKey key => some key.display
  | notInteger shown =>
    some (Text.ofString "invalid literal for int() with base 10: " ++ shown.take shownLimit)
  | tooManyDigits digits =>
    some (Text.ofString "Exceeds the limit (4300 digits) for integer string conversion: value has "
      ++ Text.ofNat digits ++
      Text.ofString " digits; use sys.set_int_max_str_digits() to increase the limit")
  | unwritable =>
    some (Text.ofString "Exceeds the limit (4300 digits) for integer string conversion; " ++
      Text.ofString "use sys.set_int_max_str_digits() to increase the limit")
  | undefinedNumber => some (Text.ofString "cannot convert float NaN to integer")
  | negativeCount => some (Text.ofString "negative count")
  | byteOutside => some (Text.ofString "bytes must be in range(0, 256)")
  | pairTooShort size =>
    some (Text.ofString "not enough values to unpack (expected 2, got " ++ Text.ofNat size ++
      Text.ofString ")")
  | pairTooLong => some (Text.ofString "too many values to unpack (expected 2)")
  | lengthsDiffer points scalars =>
    some (Text.ofString "점 개수 " ++ Text.ofNat points ++ Text.ofString "와 스칼라 개수 " ++
      Text.ofNat scalars ++ Text.ofString "가 다릅니다")
  | unknownLevel name => some (Text.ofString "Unknown level: " ++ Text.quoted name)
  | chordMissed => some (Text.ofString "Point addition is incorrect")
  | template cause => cause.message?
  | pairing .offTwist =>
    some (Text.ofString "Invalid input - point Q is not on the correct curve")
  | pairing .offCurve =>
    some (Text.ofString "Invalid input - point P is not on the correct curves")
  | pairing .lineThroughInfinity =>
    some (Text.ofString "Invalid input - no points-at-infinity allowed")
  | _ => none

end Fault

inductive Failure where
  | rejected (cause : Rejection)
  | fault (cause : Fault)

namespace Failure

instance : Coe Rejection Failure := ⟨rejected⟩

instance : Coe Fault Failure := ⟨fault⟩

def name : Failure → String
  | rejected cause => cause.kind.name
  | fault cause => cause.name

def message? : Failure → Option Text
  | rejected cause => some cause.message
  | fault cause => cause.message?

end Failure

abbrev Outcome := Except Failure

/-- Stops with a library error, if its wording can be written. -/
def reject {α : Type} (cause : Rejection) : Outcome α :=
  .error (if cause.isWritable then .rejected cause else .fault .unwritable)

def refuse {α : Type} (cause : Fault) : Outcome α := .error (.fault cause)

end VectorCommitment
