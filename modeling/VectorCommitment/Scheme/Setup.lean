import VectorCommitment.Hash.Sha256
import VectorCommitment.Scheme.Parameters
import VectorCommitment.Text.Utf8
import VectorCommitment.Value.Pairing

/-! Generation of parameters from a trapdoor `α`. Of the prover's entries `α ^ (k + 1)` times the
generator, for `k < 2 * N`, the one for `k = N` is kept back. -/

namespace VectorCommitment

def hashToScalar (bytes : List UInt8) : Nat := ofBigEndian (Sha256.digest bytes) % groupOrder

namespace Setup

def powersFrom (α power : Nat) : Nat → List Nat
  | 0 => []
  | count + 1 => (power * α % groupOrder) :: powersFrom α (power * α % groupOrder) count

def powers (α count : Nat) : List Nat := powersFrom α 1 count

def proverPoints (α capacity : Nat) : List G1 :=
  ((powers α (2 * capacity)).map (· • G1.generator)).set capacity .infinity

def verifierPoints (α capacity : Nat) : List G2 :=
  (powers α capacity).map (· • G2.generator)

def verifierTarget (e : PairingMap) (α capacity : Nat) : Except PairingFault Target :=
  e.pair G2.generator ((powers α (2 * capacity)).getD capacity 0 • G1.generator)

/-- The trapdoor that a seed stands for. A seed that hashes to zero stands for none. -/
def trapdoor? (seed : Text) : Outcome (Option Nat) :=
  match Text.encodeUtf8? seed with
  | none => refuse .unencodable
  | some bytes =>
    let α := hashToScalar bytes
    .ok (if α = 0 then none else some α)

def trapdoor (drawn : Nat) : Value → Outcome Nat
  | .null => .ok drawn
  | seed => do return (← trapdoor? (← seed.write)).getD drawn

def parameters (e : PairingMap) (α capacity : Nat) : Outcome (Value × Value) := do
  let target ← Value.ofPairing (verifierTarget e α capacity)
  return (.prover capacity ((proverPoints α capacity).map .ofG1),
    .verifier capacity ((verifierPoints α capacity).map .ofG2) (.target target))

end Setup

def generate (e : PairingMap) (drawn : Nat) (capacity seed : Value) : Outcome (Value × Value) := do
  let n ← capacity.toInt
  if n < 1 then reject (.setupBelowOne n)
  else Setup.parameters e (← Setup.trapdoor drawn seed) n.toNat

end VectorCommitment
