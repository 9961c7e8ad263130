import VectorCommitment.Codec.Decimal
import VectorCommitment.Store.Table

namespace VectorCommitment.Service

def proverKey : Text := "vc.params.prover"

def verifierKey : Text := "vc.params.verifier"

def commitmentStart : Text := "vc.commitment."

def serviceStart : Text := "vc."

def commitmentKey (key : Text) : Text := commitmentStart ++ key

inductive Missing where
  | parameters
  | commitment (key : Text)
deriving DecidableEq

def Missing.message : Missing → Text
  | parameters => "파라미터가 없습니다. /vc/setup을 먼저 호출하세요"
  | commitment key =>
    Text.ofString "커밋먼트 '" ++ key ++ Text.ofString "'가 없습니다"

inductive Refusal where
  | missing (what : Missing)
  | failed (cause : Failure)

abbrev Handling := Except Refusal

instance : MonadLift Outcome Handling :=
  ⟨fun
    | .ok a => .ok a
    | .error cause => .error (.failed cause)⟩

def absent {α : Type} (what : Missing) : Handling α := .error (.missing what)

/-- The data of a key, where `null` counts as none. -/
def present? (key : Text) (table : Table) : Option Value :=
  match table.lookup? key with
  | some .null => none
  | found => found

/-- The data of a key, where all that is empty counts as none. -/
def filled? (key : Text) (table : Table) : Option Value :=
  (table.lookup? key).filter (·.isTruthy)

def loadProver (table : Table) : Handling Value :=
  match filled? proverKey table with
  | some data => (Codec.readProver data : Outcome Value)
  | none => absent .parameters

def loadVerifier (table : Table) : Handling Value :=
  match filled? verifierKey table with
  | some data => (Codec.readVerifier data : Outcome Value)
  | none => absent .parameters

def loadCommitment (key : Text) (table : Table) : Handling Value :=
  match present? (commitmentKey key) table with
  | some data => .ok data
  | none => absent (.commitment key)

end VectorCommitment.Service
