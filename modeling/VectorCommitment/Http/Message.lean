import VectorCommitment.Failure.Basic
import VectorCommitment.Http.Target
import VectorCommitment.Json.Encoding

namespace VectorCommitment.Http

structure Request where
  method : Text
  target : Text
  contentType : Option Text
  body : List UInt8

structure Draft where
  method : Text
  target : Text
  contentType : Option Text
  body : Text

def checkHeader (t : Text) : Sending Unit :=
  if t.contains 0x0A || t.contains 0x0D then .error .lineEnd else .ok ()

def Draft.send (draft : Draft) : Sending Request := do
  checkTarget draft.target
  if let some contentType := draft.contentType then checkHeader contentType
  checkEncodable (inner draft.target)
  match Text.encodeUtf8? draft.body with
  | some body => return ⟨draft.method, draft.target, draft.contentType, body⟩
  | none => throw .unencodable

structure Response where
  status : Nat
  body : Value

def isHeaderBlank (c : CodePoint) : Bool := c = 0x20 || c = 0x09

def mediaType (contentType : Text) : Text :=
  let bare := (contentType.takeWhile (· ≠ 0x3B)).dropWhile isHeaderBlank
  Text.lowerCase (bare.reverse.dropWhile isHeaderBlank).reverse

def isJsonType (t : Text) : Bool :=
  t = Text.ofString "application/json" ||
    (Text.startsWith "application/" t && (Text.ofString "+json").isSuffixOf t)

def Request.isJson (request : Request) : Bool :=
  request.contentType.any fun contentType => isJsonType (mediaType contentType)

/-- The value of a request's body. A body that is not sent as JSON or is malformed counts as `null`,
but one that is nested too deep is a fault. -/
def Request.readBody (room : Nat) (request : Request) : Outcome Value :=
  if request.isJson then
    match Json.readBytes room request.body with
    | .ok v => .ok v
    | .error .malformed => .ok .null
    | .error .tooDeep => refuse .tooDeep
  else .ok .null

end VectorCommitment.Http
