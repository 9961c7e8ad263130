import Mathlib.Data.List.Prime
import Mathlib.NumberTheory.LucasPrimality
import VectorCommitment.Field.Prime
import VectorCommitment.Value.Arithmetic

/-! Both moduli are prime, by certificates in the manner of Lucas. -/

namespace VectorCommitment

namespace Primality

lemma powMod_eq (m budget a n : ℕ) (h : n < 2 ^ budget) :
    Value.powMod m budget a n = a ^ n % m := by
  induction budget generalizing a n with
  | zero =>
    obtain rfl : n = 0 := by simpa using h
    simp [Value.powMod]
  | succ budget ih =>
    rw [Value.powMod]
    split
    · next hn => simp [hn]
    · have hn : n / 2 < 2 ^ budget := by rw [pow_succ] at h; omega
      have hhalf : Value.powMod m budget (a * a % m) (n / 2) = a ^ (2 * (n / 2)) % m := by
        rw [ih _ _ hn, ← Nat.pow_mod, pow_mul, sq]
      rw [hhalf]
      dsimp only
      split
      · have he : n = 2 * (n / 2) + 1 := by omega
        conv_rhs => rw [he, pow_succ]
        exact Nat.mod_mul_mod _ _ _
      · have he : n = 2 * (n / 2) := by omega
        conv_rhs => rw [he]

structure Certificate where
  number : ℕ
  root : ℕ
  factors : List ℕ

namespace Certificate

def powerOfRoot (c : Certificate) (n : ℕ) : ℕ := Value.powMod c.number 256 c.root n

def isValid (known : List ℕ) (c : Certificate) : Bool :=
  decide (1 < c.number ∧ c.number < 2 ^ 256 ∧ (∀ q ∈ c.factors, q ∈ known) ∧
    c.number - 1 ∣ c.factors.prod ^ 32 ∧ c.powerOfRoot (c.number - 1) = 1 ∧
    ∀ q ∈ c.factors, c.powerOfRoot ((c.number - 1) / q) ≠ 1)

lemma powerOfRoot_eq_one_iff {c : Certificate} {n : ℕ} (hc : 1 < c.number) (hn : n < 2 ^ 256) :
    c.powerOfRoot n = 1 ↔ (c.root : ZMod c.number) ^ n = 1 := by
  have hcast := ZMod.natCast_eq_natCast_iff' (c.root ^ n) 1 c.number
  rw [Nat.mod_eq_of_lt hc, Nat.cast_pow, Nat.cast_one] at hcast
  rw [powerOfRoot, powMod_eq _ _ _ _ hn, hcast]

lemma prime {known : List ℕ} {c : Certificate} (hk : ∀ q ∈ known, q.Prime)
    (h : c.isValid known = true) : c.number.Prime := by
  obtain ⟨hc, hlt, hf, hdvd, hone, hne⟩ := of_decide_eq_true h
  refine lucas_primality c.number c.root ((powerOfRoot_eq_one_iff hc (by omega)).mp hone) ?_
  intro q hq hqd hpow
  obtain ⟨f, hfm, hqf⟩ := hq.prime.dvd_prod_iff.mp (hq.dvd_of_dvd_pow (hqd.trans hdvd))
  obtain rfl := (Nat.prime_dvd_prime_iff_eq hq (hk f (hf f hfm))).mp hqf
  have hdiv : (c.number - 1) / q < 2 ^ 256 := (Nat.div_le_self _ _).trans_lt (by omega)
  exact hne q hfm ((powerOfRoot_eq_one_iff hc hdiv).mpr hpow)

def certified (known : List ℕ) : List Certificate → List ℕ
  | [] => known
  | c :: cs => certified (if c.isValid known then c.number :: known else known) cs

lemma certified_prime (cs : List Certificate) {known : List ℕ} (hk : ∀ q ∈ known, q.Prime) :
    ∀ q ∈ certified known cs, q.Prime := by
  induction cs generalizing known with
  | nil => exact hk
  | cons c cs ih =>
    rw [certified]
    split
    · next hc =>
      apply ih
      intro q hq
      rcases List.mem_cons.mp hq with rfl | hq
      · exact prime hk hc
      · exact hk q hq
    · exact ih hk

end Certificate

def certificates : List Certificate :=
  [⟨2, 1, []⟩, ⟨3, 2, [2]⟩, ⟨5, 2, [2]⟩, ⟨7, 3, [2, 3]⟩, ⟨11, 2, [2, 5]⟩, ⟨13, 2, [2, 3]⟩,
   ⟨17, 3, [2]⟩, ⟨19, 2, [2, 3]⟩, ⟨23, 5, [2, 11]⟩, ⟨29, 2, [2, 7]⟩, ⟨31, 3, [2, 3, 5]⟩,
   ⟨37, 2, [2, 3]⟩, ⟨41, 6, [2, 5]⟩, ⟨47, 5, [2, 23]⟩, ⟨53, 2, [2, 13]⟩, ⟨67, 2, [2, 3, 11]⟩,
   ⟨71, 7, [2, 5, 7]⟩, ⟨73, 5, [2, 3]⟩, ⟨83, 2, [2, 41]⟩, ⟨89, 3, [2, 11]⟩, ⟨107, 2, [2, 53]⟩,
   ⟨109, 6, [2, 3]⟩, ⟨127, 3, [2, 3, 7]⟩, ⟨137, 3, [2, 17]⟩, ⟨223, 3, [2, 3, 37]⟩,
   ⟨229, 6, [2, 3, 19]⟩, ⟨233, 3, [2, 29]⟩, ⟨271, 6, [2, 3, 5]⟩, ⟨311, 17, [2, 5, 31]⟩,
   ⟨379, 2, [2, 3, 7]⟩, ⟨409, 21, [2, 3, 17]⟩, ⟨449, 3, [2, 7]⟩, ⟨491, 2, [2, 5, 7]⟩,
   ⟨661, 2, [2, 3, 5, 11]⟩, ⟨823, 3, [2, 3, 137]⟩, ⟨853, 2, [2, 3, 71]⟩, ⟨911, 17, [2, 5, 7, 13]⟩,
   ⟨983, 5, [2, 491]⟩, ⟨1231, 3, [2, 3, 5, 41]⟩, ⟨1637, 2, [2, 409]⟩, ⟨2221, 2, [2, 3, 5, 37]⟩,
   ⟨3557, 2, [2, 7, 127]⟩, ⟨3691, 2, [2, 3, 5, 41]⟩, ⟨4999, 3, [2, 3, 7, 17]⟩,
   ⟨5501, 2, [2, 5, 11]⟩, ⟨11003, 2, [2, 5501]⟩, ⟨13327, 3, [2, 3, 2221]⟩,
   ⟨20963, 2, [2, 47, 223]⟩, ⟨41927, 5, [2, 20963]⟩, ⟨93001, 14, [2, 3, 5, 31]⟩,
   ⟨237073, 15, [2, 3, 11, 449]⟩, ⟨327599, 19, [2, 19, 37, 233]⟩, ⟨1593227, 2, [2, 19, 41927]⟩,
   ⟨1853641, 17, [2, 3, 5, 19, 271]⟩, ⟨4562087, 5, [2, 17, 109, 1231]⟩,
   ⟨173171039, 13, [2, 73, 89, 13327]⟩, ⟨405928799, 22, [2, 11, 3691, 4999]⟩,
   ⟨639533339, 2, [2, 229, 853, 1637]⟩, ⟨1263766531, 10, [2, 3, 5, 13, 911, 3557]⟩,
   ⟨11465965001, 3, [2, 5, 7, 327599]⟩, ⟨12048837557, 2, [2, 7, 661, 93001]⟩,
   ⟨35385462869, 2, [2, 7, 1263766531]⟩, ⟨5156902474397, 2, [2, 107, 12048837557]⟩,
   ⟨1670836401704629, 2, [2, 3, 5156902474397]⟩,
   ⟨2480874801745591, 6, [2, 3, 5, 19, 41, 35385462869]⟩,
   ⟨65865678001877903, 5, [2, 83, 379, 1637, 639533339]⟩,
   ⟨13818364434197438864469338081, 3, [2, 5, 823, 1593227, 65865678001877903]⟩,
   ⟨13427688667394608761327070753331941386769, 17,
     [2, 3, 7, 11, 1853641, 4562087, 173171039, 2480874801745591]⟩,
   ⟨groupOrder, 5,
     [2, 3, 13, 29, 983, 11003, 237073, 405928799, 1670836401704629,
     13818364434197438864469338081]⟩,
   ⟨fieldModulus, 3,
     [2, 3, 13, 29, 67, 229, 311, 983, 11003, 405928799, 11465965001,
     13427688667394608761327070753331941386769]⟩]

lemma certificates_hold : groupOrder ∈ Certificate.certified [] certificates ∧
    fieldModulus ∈ Certificate.certified [] certificates := by
  decide +kernel

end Primality

lemma prime_groupOrder : groupOrder.Prime :=
  Primality.Certificate.certified_prime _ (by simp) _ Primality.certificates_hold.1

lemma prime_fieldModulus : fieldModulus.Prime :=
  Primality.Certificate.certified_prime _ (by simp) _ Primality.certificates_hold.2

instance : Fact groupOrder.Prime := ⟨prime_groupOrder⟩

instance : Fact fieldModulus.Prime := ⟨prime_fieldModulus⟩

end VectorCommitment
