import Mathlib.Logic.Function.Basic
import VectorCommitment.Proofs.Service.Inventory
import VectorCommitment.Proofs.Service.Openings

/-! The service as a map from keys to vectors. What a caller knows from the requests and their
answers tells what every key stands for from then on. -/

namespace VectorCommitment.Service

open Http Point Value

structure Receipt where
  inputs : Value
  length : Value
  digits : Value
deriving DecidableEq

/-- The parameters of the last setup that ended well, and for every key the last commit since that
did. -/
structure Ledger where
  parameters : Option NewParameters
  commits : Text → Option Receipt

namespace Ledger

def empty : Ledger := ⟨none, fun _ => none⟩

variable (e : PairingMap)

end Ledger

section Step

variable {e : PairingMap} {events : List Event} {settings : Settings} {drawn : ℕ}
  {request : Request} {response : Response} {table table' : Table} {ledger : Ledger} {key : Text}
  {body : Value}

lemma lookup?_parameters {storage : Storage} (key : Text) (prover verifier : Value) :
    Table.lookup? (commitmentKey key)
      ⟨storage, [Record.ofData proverKey prover, Record.ofData verifierKey verifier]⟩ = none := by
  have hkey := hasKey_parameters (startsWith_commitmentKey key)
  rw [Table.lookup?, List.find?_cons_of_neg (Bool.eq_false_iff.mp (hkey _).1),
    List.find?_cons_of_neg (Bool.eq_false_iff.mp (hkey _).2)]
  rfl

lemma upsert_commitment {prover verifier : Value} {entries : List Record}
    (hrecords : table.records =
      Record.ofData proverKey prover :: Record.ofData verifierKey verifier :: entries)
    (key : Text) (data : Value) :
    ∃ entries', (table.upsert (commitmentKey key) data).records =
      Record.ofData proverKey prover :: Record.ofData verifierKey verifier :: entries' := by
  have hkey := hasKey_parameters (startsWith_commitmentKey key)
  exact ⟨_, (Table.upsert_cons hrecords (hkey _).1).trans
    (congrArg _ (Table.upsert_cons rfl (hkey _).2))⟩

end Step

section Run

variable {e : PairingMap} {events : List Event} {key : Text}

end Run

section Answers

variable {key : Text} {table : Table}

lemma commitment_entry {units : List ℕ} {x : ZMod groupOrder}
    (hlookup : table.lookup? (commitmentKey key) = some (entryData units x)) :
    ∃ shown : Text, commitment key table = .ok (.dict [("key", .text key),
      ("length", .int units.length), ("commitment", .text (residueDigits x)),
      ("display", .text shown)]) := by
  have hload : loadCommitment key table = .ok (entryData units x) := by
    rw [loadCommitment, present?, hlookup]
    rfl
  obtain ⟨shown, hshown⟩ := exists_pointShort (G1.generator.multiple x)
  have hlength : sizeOf (.list (units.map Codec.scalarData)) = .ok units.length :=
    congrArg Except.ok (List.length_map _)
  refine ⟨shown, ?_⟩
  rw [commitment, hload, Outcome.ok_bind, item_commitment, lift_ok_bind, Codec.readG1_multiple,
    lift_ok_bind, item_inputs, lift_ok_bind, hlength, lift_ok_bind, pointToHex_multiple,
    lift_ok_bind, hshown, lift_ok_bind]
  rfl

variable {e : PairingMap} {events : List Event} {ledger : Ledger}

end Answers

section Frame

variable {e : PairingMap} {events : List Event} {table table' : Table} {key : Text}

end Frame

def get (path : Text) : Request := ⟨"GET", path, none, []⟩

end VectorCommitment.Service
