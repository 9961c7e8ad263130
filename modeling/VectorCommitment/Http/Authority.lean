import VectorCommitment.Http.HostName
import VectorCommitment.Text.Utf8

namespace VectorCommitment.Http

inductive SendFault where
  | bracketMissing
  | notFutureAddress
  | notAddress (host : Text)
  | shortAddress
  | hiddenDelimiter (authority : Text)
  | hostUnencodable
  | portNotNumber (port : Text)
  | portTooLong (digits : Nat)
  | portTooLarge
  | unencodable
  | lineEnd
deriving DecidableEq

namespace SendFault

def name : SendFault → String
  | hostUnencodable => "UnicodeError"
  | unencodable => "UnicodeEncodeError"
  | _ => "ValueError"

def message? : SendFault → Option Text
  | bracketMissing => some (Text.ofString "Invalid IPv6 URL")
  | notFutureAddress => some (Text.ofString "IPvFuture address is invalid")
  | notAddress host =>
    some (Text.quoted host ++ Text.ofString " does not appear to be an IPv4 or IPv6 address")
  | shortAddress => some (Text.ofString "An IPv4 address cannot be in brackets")
  | hiddenDelimiter authority =>
    some (Text.ofString "netloc '" ++ authority ++
      Text.ofString "' contains invalid characters under NFKC normalization")
  | portNotNumber port =>
    some (Text.ofString "Port could not be cast to integer value as " ++ Text.quoted port)
  | portTooLong digits =>
    some (Text.ofString "Exceeds the limit (4300 digits) for integer string conversion: value has "
      ++ Text.ofNat digits ++
      Text.ofString " digits; use sys.set_int_max_str_digits() to increase the limit")
  | portTooLarge => some (Text.ofString "Port out of range 0-65535")
  | lineEnd => some (Text.ofString "Header values must not contain newline characters.")
  | hostUnencodable | unencodable => none

end SendFault

abbrev Sending := Except SendFault

def checkBracketed (host : Text) : Sending Unit :=
  if host.head? = some 0x76 then
    if isFutureAddress host then .ok () else .error .notFutureAddress
  else if isShortAddress host then .error .shortAddress
  else if isLongAddress host then .ok ()
  else .error (.notAddress host)

def delimiterForms : List CodePoint :=
  [0x2047, 0x2048, 0x2049, 0x2100, 0x2101, 0x2105, 0x2106, 0x2A74, 0xFE13, 0xFE16, 0xFE55, 0xFE56,
   0xFE5F, 0xFE6B, 0xFF03, 0xFF0F, 0xFF1A, 0xFF1F, 0xFF20]

def checkAuthority (authority : Text) : Sending Unit := do
  if authority.contains 0x5B != authority.contains 0x5D then throw .bracketMissing
  if authority.contains 0x5B then
    checkBracketed (((Text.splitFirst 0x5B authority).2).takeWhile (· ≠ 0x5D))
  if authority.any delimiterForms.contains then throw (.hiddenDelimiter authority)

def splitUser (authority : Text) : Text × Text :=
  let host := (authority.reverse.takeWhile (· ≠ 0x40)).reverse
  (authority.take (authority.length - host.length - 1), host)

def splitPort (t : Text) : Text × Text :=
  if t.contains 0x5B then
    let (host, rest) := Text.splitFirst 0x5D (Text.splitFirst 0x5B t).2
    (host, (Text.splitFirst 0x3A rest).2)
  else Text.splitFirst 0x3A t

def isPlainInUser (c : CodePoint) : Bool :=
  Text.isDigit c || isLetter c || (Text.ofString "_.-~%!$&'()*+,;=").contains c

def byteEscape (b : UInt8) : Text := 0x25 :: Text.upperCase (Text.hexDigits 2 b.toNat)

def escapeUser (t : Text) : Sending Text :=
  if t.any Text.isSurrogate then .error .unencodable
  else .ok (t.flatMap fun c =>
    if isPlainInUser c then [c] else (Text.encodeCodePoint c).flatMap byteEscape)

def normalUser (user : Text) : Sending Text :=
  match Text.splitFirst 0x3A user with
  | ([], _) => .ok []
  | (name, []) => do return (← escapeUser name) ++ [0x40]
  | (name, password) => do return (← escapeUser name) ++ 0x3A :: (← escapeUser password) ++ [0x40]

def normalPort (port : Text) : Sending Text :=
  if port.isEmpty then .ok []
  else
    match Text.asciiDigits? port with
    | none => .error (.portNotNumber port)
    | some digits =>
      match Text.readDigits digits with
      | .error _ => .error (.portTooLong digits.length)
      | .ok n =>
        if 65535 < n then .error .portTooLarge
        else .ok (if n = 0 then [] else 0x3A :: Text.ofNat n)

def normalHost (host : Text) : Sending Text :=
  if host.isEmpty then .ok []
  else
    match asciiName? (Text.lowerCase (host.takeWhile (· ≠ 0x25)) ++ host.dropWhile (· ≠ 0x25)) with
    | none => .error .hostUnencodable
    | some name => .ok (if name.contains 0x3A then 0x5B :: name ++ [0x5D] else name)

def normalAuthority (authority : Text) : Sending Text := do
  let (user, place) := splitUser authority
  let (host, port) := splitPort place
  let host ← normalHost host
  let port ← normalPort port
  return (← normalUser user) ++ host ++ port

end VectorCommitment.Http
