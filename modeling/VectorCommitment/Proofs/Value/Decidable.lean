import Mathlib.Tactic.Lemma
import VectorCommitment.Value.Basic

namespace VectorCommitment.Value

mutual

def same : Value → Value → Bool
  | null, null => true
  | bool a, bool b => a = b
  | int a, int b => a = b
  | float a, float b => a = b
  | text a, text b => a = b
  | bytes a, bytes b => a = b
  | byteArray a, byteArray b => a = b
  | memoryView n a, memoryView m b => n = m && a = b
  | list a, list b => sameAll a b
  | tuple a, tuple b => sameAll a b
  | dict a, dict b => sameEntries a b
  | scalar a, scalar b => a = b
  | coordinate a, coordinate b => a = b
  | quadratic a, quadratic b => a = b
  | target a, target b => a = b
  | prover n a, prover m b => n = m && sameAll a b
  | verifier n a t, verifier m b s => n = m && sameAll a b && same t s
  | _, _ => false

def sameAll : List Value → List Value → Bool
  | [], [] => true
  | a :: as, b :: bs => same a b && sameAll as bs
  | _, _ => false

def sameEntries : List (Text × Value) → List (Text × Value) → Bool
  | [], [] => true
  | (k, a) :: as, (l, b) :: bs => k = l && same a b && sameEntries as bs
  | _, _ => false

end

mutual

lemma eq_of_same {a b : Value} (h : same a b = true) : a = b := by
  unfold same at h
  split at h
  case h_1 => rfl
  case h_2 | h_3 | h_4 | h_5 | h_6 | h_7 | h_12 | h_13 | h_14 | h_15 => rw [of_decide_eq_true h]
  case h_8 =>
    rw [Bool.and_eq_true] at h
    rw [of_decide_eq_true h.1, of_decide_eq_true h.2]
  case h_9 | h_10 => rw [eq_of_sameAll h]
  case h_11 => rw [eq_of_sameEntries h]
  case h_16 =>
    rw [Bool.and_eq_true] at h
    rw [of_decide_eq_true h.1, eq_of_sameAll h.2]
  case h_17 =>
    rw [Bool.and_eq_true, Bool.and_eq_true] at h
    rw [of_decide_eq_true h.1.1, eq_of_sameAll h.1.2, eq_of_same h.2]
  case h_18 => exact Bool.noConfusion h

lemma eq_of_sameAll {as bs : List Value} (h : sameAll as bs = true) : as = bs := by
  unfold sameAll at h
  split at h
  · rfl
  · rw [Bool.and_eq_true] at h
    rw [eq_of_same h.1, eq_of_sameAll h.2]
  · exact Bool.noConfusion h

lemma eq_of_sameEntries {as bs : List (Text × Value)} (h : sameEntries as bs = true) : as = bs := by
  unfold sameEntries at h
  split at h
  · rfl
  · rw [Bool.and_eq_true, Bool.and_eq_true] at h
    rw [of_decide_eq_true h.1.1, eq_of_same h.1.2, eq_of_sameEntries h.2]
  · exact Bool.noConfusion h

end

mutual

lemma same_self (v : Value) : same v v = true := by
  cases v with
  | null => rfl
  | bool b | int b | float b | text b | bytes b | byteArray b | scalar b | coordinate b
  | quadratic b | target b => exact decide_eq_true rfl
  | memoryView n b => rw [same, decide_eq_true rfl, decide_eq_true rfl, Bool.true_and]
  | list items | tuple items => exact sameAll_self items
  | dict entries => exact sameEntries_self entries
  | prover n g => rw [same, decide_eq_true rfl, sameAll_self g, Bool.true_and]
  | verifier n h t =>
    rw [same, decide_eq_true rfl, sameAll_self h, same_self t, Bool.true_and, Bool.true_and]

lemma sameAll_self (vs : List Value) : sameAll vs vs = true := by
  cases vs with
  | nil => rfl
  | cons v vs => rw [sameAll, same_self v, sameAll_self vs, Bool.true_and]

lemma sameEntries_self (entries : List (Text × Value)) : sameEntries entries entries = true := by
  cases entries with
  | nil => rfl
  | cons entry entries =>
    rw [sameEntries, decide_eq_true rfl, same_self entry.2, sameEntries_self entries,
      Bool.true_and, Bool.true_and]

end

instance : DecidableEq Value := fun a b =>
  decidable_of_iff (same a b = true) ⟨eq_of_same, fun h => h ▸ same_self a⟩

end VectorCommitment.Value
