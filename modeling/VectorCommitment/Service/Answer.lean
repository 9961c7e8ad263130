import VectorCommitment.Http.Route
import VectorCommitment.Service.Operations

namespace VectorCommitment.Service

open Http

def bodyFor (settings : Settings) (resource : Resource) (request : Request) : Outcome Value :=
  request.readBody (settings.nesting resource)

def onBody (body : Outcome Value) (table : Table) (operation : Value → Handling Value × Table) :
    Handling Value × Table :=
  match body with
  | .ok body => operation body
  | .error cause => (.error (.failed cause), table)

variable (e : PairingMap)

def perform (settings : Settings) (drawn : Nat) (request : Request) (table : Table)
    (resource : Resource) : Option (Handling Value × Table) :=
  let body := bodyFor settings resource request
  match resource with
  | .health => some (.ok (health table), table)
  | .setup => some (onBody body table fun body => setup e settings drawn body table)
  | .parameters => some (parameters table, table)
  | .commit => some (onBody body table fun body => commit body table)
  | .commitment key => some (commitment key table, table)
  | .opening => some (do opening (← body) table, table)
  | .verification => some (do verification e (← body) table, table)
  | .clear => some (clear table)
  | .file => none

def errorBody (name : String) (message : Text) : Value :=
  .dict [("success", .bool false), ("error", .text name), ("message", .text message)]

def respond : Handling Value → Response
  | .ok body => ⟨200, body⟩
  | .error (.missing what) => ⟨404, errorBody "NotFound" what.message⟩
  | .error (.failed (.rejected cause)) => ⟨400, errorBody cause.kind.name cause.message⟩
  | .error (.failed (.fault _)) => ⟨500, .null⟩

/-- The response to a request and the table after it. A setup without a seed takes the drawn
trapdoor. -/
def answer (settings : Settings) (drawn : Nat) (request : Request) (table : Table) :
    Response × Table :=
  match route request with
  | .unknown => (⟨404, .null⟩, table)
  | .wrongMethod => (⟨405, .null⟩, table)
  | .moved => (⟨308, .null⟩, table)
  | .refused => (⟨400, .null⟩, table)
  | .found _ .options => (⟨200, .null⟩, table)
  | .found resource (.perform withBody) =>
    match perform e settings drawn request table resource with
    | none => (⟨404, .null⟩, table)
    | some (result, table) =>
      let response := respond result
      (if withBody then response else { response with body := .null }, table)

end VectorCommitment.Service
