import Mathlib.Data.Int.ModEq
import Mathlib.Data.ZMod.Basic
import VectorCommitment.Proofs.Field.Primality

namespace VectorCommitment

/-- The factor of each remainder stays right: the remainders are these multiples of `a` modulo
`m`, and their greatest common divisor never changes. -/
lemma euclidFactor_mul (m a budget high low : ℕ) (highFactor factor : ℤ)
    (hgcd : Nat.gcd high low = 1) (hlow : 0 < low) (hbudget : low ≤ budget)
    (hhigh : highFactor * a ≡ high [ZMOD m]) (hfactor : factor * a ≡ low [ZMOD m]) :
    euclidFactor budget high low highFactor factor * a ≡ 1 [ZMOD m] := by
  induction budget generalizing high low highFactor factor with
  | zero => omega
  | succ budget ih =>
    rw [euclidFactor]
    split
    · obtain rfl : low = 1 := by omega
      exact hfactor
    · have hrest : high % low < low := Nat.mod_lt _ hlow
      have hgcd' : Nat.gcd low (high % low) = 1 := by
        rw [Nat.gcd_comm, ← Nat.gcd_rec, Nat.gcd_comm]
        exact hgcd
      have hpos : 0 < high % low := by
        rcases Nat.eq_zero_or_pos (high % low) with hz | hz
        · rw [hz, Nat.gcd_zero_right] at hgcd'
          omega
        · exact hz
      refine ih low (high % low) factor _ hgcd' hpos (by omega) hfactor ?_
      have hmod : ((high % low : ℕ) : ℤ) = high - low * (high / low) := by
        rw [Int.natCast_mod, Int.emod_def]
      have hmul : (highFactor - factor * (high / low)) * a =
          highFactor * a - factor * a * (high / low) := by ring
      rw [hmod, hmul]
      exact hhigh.sub (hfactor.mul_right _)

lemma inverseMod_mul {m a : ℕ} (hm : 1 < m) (ha : Nat.Coprime m a) :
    inverseMod m a * a ≡ 1 [MOD m] := by
  have hgcd : Nat.gcd m (a % m) = 1 := by
    rw [Nat.gcd_comm, ← Nat.gcd_rec]
    exact ha
  have hne : a % m ≠ 0 := by
    intro hz
    rw [hz, Nat.gcd_zero_right] at hgcd
    omega
  have hmod : ((a % m : ℕ) : ℤ) ≡ a [ZMOD m] := by
    rw [Int.natCast_mod]
    exact Int.mod_modEq _ _
  have he := euclidFactor_mul m (a % m) (a % m) m (a % m) 0 1 hgcd (by omega) le_rfl
    (by simp [Int.ModEq]) (by simp [Int.ModEq])
  rw [← Int.natCast_modEq_iff, inverseMod, if_neg hne, Nat.cast_mul,
    Int.toNat_of_nonneg (Int.emod_nonneg _ (by omega))]
  calc _ ≡ euclidFactor (a % m) m (a % m) 0 1 * a [ZMOD m] := (Int.mod_modEq _ _).mul_right _
    _ ≡ euclidFactor (a % m) m (a % m) 0 1 * (a % m : ℕ) [ZMOD m] := hmod.symm.mul_left _
    _ ≡ 1 [ZMOD m] := he

lemma cast_inverseMod {m : ℕ} [Fact m.Prime] (a : ℕ) :
    (inverseMod m a : ZMod m) = (a : ZMod m)⁻¹ := by
  have hm : m.Prime := Fact.out
  by_cases hdvd : m ∣ a
  · rw [inverseMod, if_pos (Nat.mod_eq_zero_of_dvd hdvd), (ZMod.natCast_eq_zero_iff _ _).mpr hdvd]
    simp
  · have hmul := inverseMod_mul hm.one_lt (hm.coprime_iff_not_dvd.mpr hdvd)
    rw [← ZMod.natCast_eq_natCast_iff, Nat.cast_mul, Nat.cast_one] at hmul
    exact eq_inv_of_mul_eq_one_left hmul

end VectorCommitment
