import VectorCommitment.Http.Authority

/-! The path that a request target names. A target is taken apart twice by the sender, and what
still looks like an authority after that belongs to the path in its normal form. -/

namespace VectorCommitment.Http

def isSchemeCharacter (c : CodePoint) : Bool :=
  Text.isDigit c || isLetter c || c = 0x2B || c = 0x2D || c = 0x2E

def takeScheme (t : Text) : Option Text × Text :=
  match t.takeWhile isSchemeCharacter, t.dropWhile isSchemeCharacter with
  | first :: name, 0x3A :: rest =>
    if isLetter first then (some (Text.lowerCase (first :: name)), rest) else (none, t)
  | _, _ => (none, t)

def endsAuthority (c : CodePoint) : Bool := c = 0x2F || c = 0x3F || c = 0x23

def takeAuthority : Text → Text × Text
  | 0x2F :: 0x2F :: rest => (rest.takeWhile (!endsAuthority ·), rest.dropWhile (!endsAuthority ·))
  | t => ([], t)

def dropControls (t : Text) : Text :=
  (t.dropWhile (· ≤ 0x20)).filter fun c => c ≠ 0x09 && c ≠ 0x0A && c ≠ 0x0D

structure Parts where
  scheme : Option Text
  authority : Text
  path : Text
  query : Text

def Parts.ofTarget (target : Text) : Parts :=
  let (scheme, rest) := takeScheme (dropControls target)
  let (authority, rest) := takeAuthority rest
  let (path, query) := Text.splitFirst 0x3F (rest.takeWhile (· ≠ 0x23))
  ⟨scheme, authority, path, query⟩

def Parts.withQuery (parts : Parts) : Text :=
  if parts.query.isEmpty then parts.path else parts.path ++ 0x3F :: parts.query

def inner (target : Text) : Text := (Parts.ofTarget target).withQuery

def bare (target : Text) : Text := (Parts.ofTarget (inner target)).path

def normalize (t : Text) : Text :=
  let (authority, rest) := takeAuthority (dropControls t)
  match normalAuthority authority with
  | .ok [] | .error _ => rest
  | .ok normal => 0x2F :: 0x2F :: normal ++ rest

def isSocket (target : Text) : Bool :=
  match (Parts.ofTarget target).scheme with
  | some scheme => scheme = Text.ofString "ws" || scheme = Text.ofString "wss"
  | none => false

def host (target : Text) : Sending Text := normalAuthority (Parts.ofTarget target).authority

def hasHostName (target : Text) : Bool :=
  match host target with
  | .ok host => isHostName (host.takeWhile (· ≠ 0x3A))
  | .error _ => false

def checkEncodable (t : Text) : Sending Unit :=
  if t.any Text.isSurrogate then .error .unencodable else .ok ()

def checkTarget (target : Text) : Sending Unit := do
  checkAuthority (Parts.ofTarget target).authority
  checkAuthority (Parts.ofTarget (inner target)).authority
  let path := Parts.ofTarget (bare target)
  checkAuthority path.authority
  checkEncodable path.path
  let _ ← normalAuthority path.authority
  checkAuthority (← host target)

def pathBytes : Text → List UInt8
  | [] => []
  | 0x25 :: a :: b :: rest =>
    match Text.hexValue? a, Text.hexValue? b with
    | some high, some low => .ofNat (16 * high + low) :: pathBytes rest
    | _, _ => 0x25 :: pathBytes (a :: b :: rest)
  | c :: rest => Text.encodeCodePoint c ++ pathBytes rest

def path (target : Text) : Text :=
  (Text.decodeUtf8 (pathBytes (normalize (bare target)))).dropWhile (· = 0x2F)

def segments (path : Text) : List Text := Text.splitWhere (· = 0x2F) path

def mergeSlashes : Text → Text
  | [] => []
  | c :: rest =>
    if c = 0x2F && rest.head? = some 0x2F then mergeSlashes rest else c :: mergeSlashes rest

end VectorCommitment.Http
