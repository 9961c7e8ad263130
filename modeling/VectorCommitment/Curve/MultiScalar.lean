/-! Sums of multiples by the bucket method, for any addition and doubling that may fail. -/

namespace VectorCommitment.MultiScalar

def windowBits (count : Nat) : Nat := max 2 (Nat.log2 count)

def window (bits shift factor : Nat) : Nat := factor / Nat.pow 2 shift % Nat.pow 2 bits

def orderBits : Nat := 254

def shifts (bits : Nat) : List Nat :=
  (List.range ((orderBits + bits - 1) / bits)).reverse.map (· * bits)

variable {α : Type} {m : Type → Type} [Monad m]
variable (add : α → α → m α) (double : α → m α) (zero : α)

def collect (bits shift : Nat) (buckets : List α) (term : α × Nat) : m (List α) :=
  match window bits shift term.2 with
  | 0 => pure buckets
  | k + 1 => do return buckets.set k (← add (buckets.getD k zero) term.1)

def bucketsOf (bits shift : Nat) (terms : List (α × Nat)) : m (List α) :=
  terms.foldlM (collect add zero bits shift) (List.replicate (Nat.pow 2 bits - 1) zero)

def accumulate (sums : α × α) (bucket : α) : m (α × α) := do
  let running ← add sums.1 bucket
  return (running, ← add sums.2 running)

/-- The sum of the buckets, each times its value: from the greatest value down, each bucket is
counted once for every running sum that it is part of. -/
def weightedSum (buckets : List α) : m α := do
  return (← buckets.reverse.foldlM (accumulate add) (zero, zero)).2

def doubleTimes : Nat → α → m α
  | 0, p => pure p
  | count + 1, p => do doubleTimes count (← double p)

def addWindow (bits : Nat) (terms : List (α × Nat)) (acc : α) (shift : Nat) : m α := do
  let acc ← doubleTimes double bits acc
  add acc (← weightedSum add zero (← bucketsOf add zero bits shift terms))

def bucketSum (terms : List (α × Nat)) : m α :=
  let bits := windowBits terms.length
  (shifts bits).foldlM (addWindow add double zero bits terms) zero

end VectorCommitment.MultiScalar
