import VectorCommitment.Http.Route
import VectorCommitment.Store.Table
import VectorCommitment.Value.Conversion
import VectorCommitment.Value.Equality

/-! The settings of the service. They are read from the environment, where only numbers are checked,
and may be replaced by any value before the service starts. -/

namespace VectorCommitment

structure Settings where
  dbPath : Value := .text "db.json"
  capacity : Value := .int 16
  maxCapacity : Value := .int 256
  srsSeed : Value := .null
  logLevel : Value := .text "INFO"
  host : Text := "localhost"
  port : Int := 5000
  devMode : Bool := true
  /-- How many arrays and objects inside one another a body may have: no variable of the environment
  but what is left of the stack where the operation reads it. -/
  nesting : Http.Resource → Nat := fun _ => 99_900

namespace Settings

abbrev Environment := List (Text × Text)

def variableOr (env : Environment) (name : String) (default : Text) : Text :=
  (env.lookup (Text.ofString name)).getD default

def numberOr (env : Environment) (name : String) (default : Int) : Outcome Int :=
  match env.lookup (Text.ofString name) with
  | some t => (Value.text t).toInt
  | none => .ok default

def ofEnvironment (env : Environment) : Outcome Settings := do
  let capacity ← numberOr env "VC_CAPACITY" 16
  let maxCapacity ← numberOr env "VC_MAX_CAPACITY" 256
  let port ← numberOr env "VC_PORT" 5000
  return {
    dbPath := .text (variableOr env "VC_DB_PATH" "db.json")
    capacity := .int capacity
    maxCapacity := .int maxCapacity
    srsSeed := ((env.lookup (Text.ofString "VC_SRS_SEED")).map Value.text).getD .null
    logLevel := .text (variableOr env "VC_LOG_LEVEL" "INFO")
    host := variableOr env "VC_HOST" "localhost"
    port
    devMode := Text.lowerCase (variableOr env "DEV_MODE" "true") = Text.ofString "true" }

def inMemory (settings : Settings) : Bool :=
  match settings.dbPath with
  | .text t => t = Text.ofString ":memory:"
  | _ => false

def storage (settings : Settings) : Storage := if settings.inMemory then .memory else .file

def url (settings : Settings) : Text :=
  Text.ofString "http://" ++ settings.host ++ Text.ofString ":" ++ Text.ofInt settings.port

def isAbove (settings : Settings) (capacity : Int) : Outcome Bool :=
  match settings.maxCapacity with
  | .float (.infinite negative) => .ok negative
  | .float (.undefined _) => .ok false
  | limit =>
    match limit.quotient? with
    | some (num, den) => .ok (num < capacity * den)
    | none => refuse .wrongType

def levels : List (Text × Nat) :=
  [("DEBUG", 10), ("INFO", 20), ("WARN", 30), ("WARNING", 30), ("ERROR", 40), ("CRITICAL", 50),
   ("FATAL", 50), ("NOTSET", 0)]

def defaultLevel : Nat := 20

def lineFormat : Text := "%(levelname)s:%(name)s:%(message)s"

def levelNamed (name : Text) : Outcome Nat :=
  let name := Text.upperCase name
  match levels.lookup name with
  | some level => .ok level
  | none =>
    if name = Text.ofString "BASIC_FORMAT" then refuse (.unknownLevel lineFormat)
    else if name = Text.ofString "_STYLES" then refuse .wrongType
    else .ok defaultLevel

def startLevel (settings : Settings) : Outcome Nat :=
  match settings.logLevel with
  | .text name => levelNamed name
  | _ => refuse .noField

end Settings

end VectorCommitment
