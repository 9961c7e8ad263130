import VectorCommitment.Value.Basic

/-! Marks on undefined numbers. Such a number does not equal itself, but a collection that holds it
equals itself, so a value that is kept and used again is marked first. -/

namespace VectorCommitment.Value

mutual

def mark (next : Nat) : Value → Value × Nat
  | float (.undefined none) => (float (.undefined (some next)), next + 1)
  | list items =>
    let (items, next) := markAll next items
    (list items, next)
  | tuple items =>
    let (items, next) := markAll next items
    (tuple items, next)
  | dict entries =>
    let (entries, next) := markEntries next entries
    (dict entries, next)
  | prover capacity g =>
    let (g, next) := markAll next g
    (prover capacity g, next)
  | verifier capacity h t =>
    let (h, next) := markAll next h
    let (t, next) := mark next t
    (verifier capacity h t, next)
  | v => (v, next)

def markAll (next : Nat) : List Value → List Value × Nat
  | [] => ([], next)
  | v :: vs =>
    let (v, next) := mark next v
    let (vs, next) := markAll next vs
    (v :: vs, next)

def markEntries (next : Nat) : List (Text × Value) → List (Text × Value) × Nat
  | [] => ([], next)
  | (key, v) :: entries =>
    let (v, next) := mark next v
    let (entries, next) := markEntries next entries
    ((key, v) :: entries, next)

end

end VectorCommitment.Value
