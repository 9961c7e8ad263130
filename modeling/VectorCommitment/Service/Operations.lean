import VectorCommitment.Codec.Point
import VectorCommitment.Scheme.Commitment
import VectorCommitment.Scheme.Setup
import VectorCommitment.Service.Records
import VectorCommitment.Service.Settings

/-! The operations of the service on its table. -/

namespace VectorCommitment.Service

variable (e : PairingMap)

def entriesOf : Value → Outcome (List (Text × Value))
  | .dict entries => .ok entries
  | _ => reject .bodyNotObject

def field (entries : List (Text × Value)) (name : Text) : Outcome Value :=
  match Value.lookup? name entries with
  | some v => .ok v
  | none => reject (.fieldMissing name)

def health (table : Table) : Value :=
  .dict [("status", .text "ok"), ("initialized", .bool (present? proverKey table).isSome)]

structure NewParameters where
  capacity : Int
  prover : Value
  verifier : Value

def setupCapacity (settings : Settings) (capacity : Value) : Outcome Int :=
  match capacity with
  | .int n => do
    if ← settings.isAbove n then reject (.capacityAboveLimit n settings.maxCapacity) else return n
  | v => reject (.capacityNotInteger v)

def newParameters (settings : Settings) (drawn : Nat) (body : Value) : Outcome NewParameters := do
  let entries ← match body with
    | .null => .ok []
    | body => entriesOf body
  let capacity ← setupCapacity settings ((Value.lookup? "capacity" entries).getD settings.capacity)
  let seed := (Value.lookup? "seed" entries).getD settings.srsSeed
  let (prover, verifier) ← generate e drawn (.int capacity) seed
  let prover ← Codec.writeProver prover
  return ⟨capacity, prover, ← Codec.writeVerifier verifier⟩

def drop (start : Text) (table : Table) (body : Value) : Handling Value × Table :=
  match table.removeStarting? start with
  | some table => (.ok body, table)
  | none => (.error (.failed (.fault .noField)), table)

/-- Replaces the parameters. Commitments under the old ones mean nothing any more and are
dropped. -/
def setup (settings : Settings) (drawn : Nat) (body : Value) (table : Table) :
    Handling Value × Table :=
  match newParameters e settings drawn body with
  | .error cause => (.error (.failed cause), table)
  | .ok new =>
    let table := (table.upsert proverKey new.prover).upsert verifierKey new.verifier
    drop commitmentStart table
      (.dict [("success", .bool true), ("capacity", .int new.capacity)])

def parameters (table : Table) : Handling Value :=
  match present? proverKey table, present? verifierKey table with
  | some prover, some verifier => do
    let p ← (Codec.readProver prover : Outcome Value)
    checkCompatible p (← (Codec.readVerifier verifier : Outcome Value))
    return .dict [("prover", prover), ("verifier", verifier)]
  | _, _ => absent .parameters

structure Entry where
  key : Text
  units : List Nat
  commitment : Value

def newEntry (body : Value) (table : Table) : Handling Entry := do
  let entries ← entriesOf body
  let key ← (← field entries "key").write
  let units ← Codec.readScalars (← field entries "inputs")
  let prover ← loadProver table
  return ⟨key, units, ← VectorCommitment.commit prover (.list (units.map .scalar))⟩

def Entry.data (entry : Entry) : Outcome Value := do
  let inputs ← Codec.writeScalars (.list (entry.units.map .scalar))
  return .dict [("inputs", inputs), ("commitment", ← Codec.writeG1 entry.commitment)]

def commit (body : Value) (table : Table) : Handling Value × Table :=
  match newEntry body table with
  | .error refusal => (.error refusal, table)
  | .ok entry =>
    match entry.data with
    | .error cause => (.error (.failed cause), table)
    | .ok data =>
      match pointToHex entry.commitment with
      | .error cause =>
        (.error (.failed cause), table.upsert (commitmentKey entry.key) data)
      | .ok digits =>
        (.ok (.dict [("success", .bool true), ("key", .text entry.key),
            ("length", .int entry.units.length), ("commitment", .text digits)]),
          table.upsert (commitmentKey entry.key) data)

def sizeOf (v : Value) : Outcome Nat :=
  match v.size? with
  | some n => .ok n
  | none => refuse .wrongType

def commitment (key : Text) (table : Table) : Handling Value := do
  let record ← loadCommitment key table
  let point ← Codec.readG1 (← record.item (.text "commitment"))
  let length ← sizeOf (← record.item (.text "inputs"))
  let digits ← pointToHex (.ofG1 point)
  return .dict [("key", .text key), ("length", .int length), ("commitment", .text digits),
    ("display", .text (← pointShort (.ofG1 point)))]

def opening (body : Value) (table : Table) : Handling Value := do
  let entries ← entriesOf body
  let key ← (← field entries "key").write
  let position ← field entries "position"
  let record ← loadCommitment key table
  let prover ← loadProver table
  let units := Value.list ((← Codec.readScalars (← record.item (.text "inputs"))).map .scalar)
  let witness ← createWitness prover units position
  let value ← Codec.writeScalar (← units.item position)
  let point ← Codec.readG1 (← record.item (.text "commitment"))
  let digits ← pointToHex (.ofG1 point)
  return .dict [("success", .bool true), ("key", .text key), ("position", position),
    ("value", value), ("commitment", .text digits), ("witness", .text (← pointToHex witness))]

def verification (body : Value) (table : Table) : Handling Value := do
  let entries ← entriesOf body
  let point ← pointOfHex (← field entries "commitment")
  let witness ← pointOfHex (← field entries "witness")
  let value ← Codec.readScalar (← field entries "value")
  let position ← field entries "position"
  let verifier ← loadVerifier table
  let accepted ← verify e point verifier (.scalar value) position witness
  return .dict [("success", .bool true), ("result", .bool accepted)]

def clear (table : Table) : Handling Value × Table :=
  drop serviceStart table (.dict [("success", .bool true)])

end VectorCommitment.Service
