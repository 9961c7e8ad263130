import VectorCommitment.Http.Message

/-! Which operation a request asks for. A path that matches none is tried again with its runs of
slashes merged. A socket is never opened, and a host without a name is not served. -/

namespace VectorCommitment.Http

inductive Resource where
  | health
  | setup
  | parameters
  | commit
  | commitment (key : Text)
  | opening
  | verification
  | clear
  | file
deriving DecidableEq

namespace Resource

def fixed : List (List Text × Resource) :=
  [(["vc", "health"], health), (["vc", "setup"], setup), (["vc", "params"], parameters),
   (["vc", "commit"], commit), (["vc", "open"], opening), (["vc", "verify"], verification),
   (["vc", "clear"], clear)]

def isFileName : List Text → Bool
  | (_ :: name) :: rest => (name :: rest).all fun segment => !segment.contains 0x0A
  | _ => false

def at? (path : List Text) : Option Resource :=
  match fixed.lookup path with
  | some resource => some resource
  | none =>
    match path with
    | folder :: segment :: rest =>
      if folder = Text.ofString "static" then
        if isFileName (segment :: rest) then some file else none
      else if folder = Text.ofString "vc" && segment = Text.ofString "commitments" then
        match rest with
        | [key] => if key = [] then none else some (commitment key)
        | _ => none
      else none
    | _ => none

def isRead : Resource → Bool
  | health | parameters | commitment _ | file => true
  | _ => false

end Resource

inductive Verb where
  | perform (withBody : Bool)
  | options
deriving DecidableEq

def verb? (resource : Resource) (method : Text) : Option Verb :=
  let method := Text.upperCase method
  if method = Text.ofString "OPTIONS" then some .options
  else if resource.isRead then
    if method = Text.ofString "GET" then some (.perform true)
    else if method = Text.ofString "HEAD" then some (.perform false)
    else none
  else if method = Text.ofString "POST" then some (.perform true)
  else none

inductive Route where
  | found (resource : Resource) (verb : Verb)
  | moved
  | wrongMethod
  | refused
  | unknown
deriving DecidableEq

inductive Match where
  | nothing
  | untaken
  | taken (resource : Resource) (verb : Verb)
deriving DecidableEq

def matchPath (method path : Text) : Match :=
  match Resource.at? (segments path) with
  | none => .nothing
  | some resource =>
    match verb? resource method with
    | some verb => .taken resource verb
    | none => .untaken

def routeOf (asIs merged : Match) : Route :=
  match asIs, merged with
  | .taken resource verb, _ => .found resource verb
  | _, .taken .. => .moved
  | .nothing, .nothing => .unknown
  | _, _ => .wrongMethod

def socketRouteOf (asIs merged : Match) : Route :=
  match asIs, merged with
  | .untaken, _ => .wrongMethod
  | _, .untaken => .wrongMethod
  | .nothing, .nothing => .unknown
  | _, _ => .refused

def route (request : Request) : Route :=
  let path := path request.target
  let asIs := matchPath request.method path
  let merged := matchPath request.method (mergeSlashes path)
  if !hasHostName request.target then .refused
  else if isSocket request.target then socketRouteOf asIs merged
  else routeOf asIs merged

end VectorCommitment.Http
