import VectorCommitment.Proofs.Failure.Acceptance
import VectorCommitment.Proofs.Scheme.Verification

namespace VectorCommitment

open Outcome Value

namespace Setup

lemma getElem?_proverValues (α : ℕ) {capacity k : ℕ} (hk : k < 2 * capacity) :
    (proverValues α capacity)[k]? = some (ofResidue (proverResidue α capacity k)) := by
  rw [proverValues, List.getElem?_map, List.getElem?_range hk, Option.map_some]

lemma proverResidue_of_ne {α capacity k : ℕ} (hk : k ≠ capacity) :
    proverResidue α capacity k = ((α ^ (k + 1) : ℕ) : ZMod groupOrder) := by
  rw [proverResidue, if_neg hk, Nat.cast_pow]

lemma verifierValues_prefix (α : ℕ) {n m : ℕ} (hnm : n ≤ m) :
    verifierValues α n <+: verifierValues α m := by
  have htake : verifierValues α n = (verifierValues α m).take n := by
    rw [verifierValues, verifierValues, ← List.map_take, List.take_range, min_eq_left hnm]
  rw [htake]
  exact List.take_prefix n _

lemma getElem?_proverValues_congr (α : ℕ) {n m k : ℕ} (hnm : n ≤ m) (hk : k < 2 * n) (hkn : k ≠ n)
    (hkm : k ≠ m) : (proverValues α n)[k]? = (proverValues α m)[k]? := by
  rw [getElem?_proverValues α hk, getElem?_proverValues α (by omega), proverResidue_of_ne hkn,
    proverResidue_of_ne hkm]

end Setup

structure IsLayout (e : PairingMap) (α capacity : ℕ) (g h : List Value) (t : Target) : Prop where
  length_g : g.length = 2 * capacity
  length_h : h.length = capacity
  kept_back : g[capacity]? = some .null
  getElem_g : ∀ k, k < 2 * capacity → k ≠ capacity →
    g[k]? = some (.ofG1 (α ^ (k + 1) • G1.generator)) ∧ g[k]? ≠ some .null
  getElem_h : ∀ k, k < capacity →
    h[k]? = some (.ofG2 (α ^ (k + 1) • G2.generator)) ∧ h[k]? ≠ some .null
  paired : ∀ i j p q, i + j + 1 = capacity → g[i]? = some p → h[j]? = some q →
    Value.pairing e q p = .ok t

lemma isLayout_parameters {e : PairingMap} {base : Target} (he : e.IsBilinear base) {α n : ℕ}
    (hα : (α : ZMod groupOrder) ≠ 0) (hn : 1 ≤ n) :
    IsLayout e α n (Setup.proverValues α n) (Setup.verifierValues α n)
      (base.power ((α : ZMod groupOrder) ^ (n + 1))) where
  length_g := by rw [Setup.proverValues, List.length_map, List.length_range]
  length_h := by rw [Setup.verifierValues, List.length_map, List.length_range]
  kept_back := by
    rw [Setup.getElem?_proverValues α (by omega), Setup.proverResidue, if_pos rfl, ofResidue_zero]
  getElem_g k hk hkn := by
    rw [Setup.getElem?_proverValues α hk, Setup.proverResidue_of_ne hkn, ofG1_nsmul_generator]
    refine ⟨rfl, fun hnull => ?_⟩
    rw [Option.some.injEq, ofResidue_eq_null_iff, Nat.cast_pow] at hnull
    exact pow_ne_zero _ hα hnull
  getElem_h k hk := by
    rw [Setup.verifierValues, List.getElem?_map, List.getElem?_range hk, ofG2_nsmul_generator,
      Nat.cast_pow]
    refine ⟨rfl, fun hnull => ?_⟩
    rw [Option.map_some, Option.some.injEq, ofTwistResidue_eq_null_iff] at hnull
    exact pow_ne_zero _ hα hnull
  paired i j p q hij hp hq := by
    have hi : i ≠ n := by omega
    rw [Setup.getElem?_proverValues α (by omega), Setup.proverResidue, if_neg hi] at hp
    rw [Setup.verifierValues, List.getElem?_map, List.getElem?_range (by omega)] at hq
    obtain rfl := Option.some.inj hp
    obtain rfl := Option.some.inj hq
    rw [pairing_multiples he, ← pow_add]
    congr 3
    omega

lemma generate_below_one (e : PairingMap) (drawn : ℕ) {capacity : Value} {i : ℤ}
    (hcapacity : capacity.toInt = .ok i) (hi : i < 1) (seed : Value) :
    generate e drawn capacity seed = reject (.setupBelowOne i) := by
  rw [generate, hcapacity, ok_bind, if_pos hi]

lemma generate_unwritable (e : PairingMap) (drawn : ℕ) {capacity : Value} {i : ℤ}
    (hcapacity : capacity.toInt = .ok i) (hi : i < 1) (hwritable : Text.isWritable i = false)
    (seed : Value) : generate e drawn capacity seed = .error (.fault .unwritable) := by
  have hcause : (Rejection.setupBelowOne i).isWritable = false := hwritable
  rw [generate_below_one e drawn hcapacity hi, reject_unwritable hcause]

/-- Every capacity has parameters of the layout that its seed gives, and all capacities share one
trapdoor. A capacity below one is refused, by an error that names it if it can be written. -/
theorem generated_layout {e : PairingMap} {base : Target} (he : e.IsBilinear base) :
    (∀ (seed : Value) (text : Text) (bytes : List UInt8), seed ≠ .null → seed.write = .ok text →
      Text.encodeUtf8? text = some bytes → hashToScalar bytes ≠ 0 →
      ∃ (g h : ℕ → List Value) (t : ℕ → Target),
        (∀ (drawn : ℕ) (capacity : Value) (n : ℕ), capacity.toInt = .ok (n : ℤ) → 1 ≤ n →
          generate e drawn capacity seed =
            .ok (.prover n (g n), .verifier n (h n) (.target (t n))) ∧
          IsLayout e (hashToScalar bytes) n (g n) (h n) (t n)) ∧
        ∀ n m, n ≤ m → h n <+: h m ∧
          ∀ k, k < 2 * n → k ≠ n → k ≠ m → (g n)[k]? = (g m)[k]?) ∧
    ∀ (drawn : ℕ) (capacity seed : Value) (i : ℤ), capacity.toInt = .ok i → i < 1 →
      (Text.isWritable i = true → Rejects .capacityExceeded (generate e drawn capacity seed)) ∧
      (Text.isWritable i = false →
        generate e drawn capacity seed = .error (.fault .unwritable)) := by
  constructor
  · intro seed text bytes hseed hwritten hbytes hne
    have hα : (hashToScalar bytes : ZMod groupOrder) ≠ 0 :=
      natCast_ne_zero hne (Nat.mod_lt _ (by decide))
    refine ⟨Setup.proverValues _, Setup.verifierValues _, _, fun drawn capacity n hcapacity hn =>
      ⟨generate_eq he hcapacity hn (Setup.trapdoor_eq hseed hwritten hbytes hne drawn),
        isLayout_parameters he hα hn⟩, ?_⟩
    intro n m hnm
    exact ⟨Setup.verifierValues_prefix _ hnm, fun k =>
      Setup.getElem?_proverValues_congr _ hnm⟩
  · intro drawn capacity seed i hcapacity hi
    refine ⟨fun hwritable => ?_, fun hwritable =>
      generate_unwritable e drawn hcapacity hi hwritable seed⟩
    rw [generate_below_one e drawn hcapacity hi]
    exact rejects_reject rfl hwritable

theorem generated_layout_first_capacity :
    (∃ g h t, generate logarithmPairing 1 (.int 1) (.text "s") =
        .ok (.prover 1 g, .verifier 1 h (.target t)) ∧
      IsLayout logarithmPairing (hashToScalar [0x73]) 1 g h t) ∧
    Rejects .capacityExceeded (generate logarithmPairing 1 (.int 0) .null) := by
  have hne : hashToScalar [0x73] ≠ 0 := by decide +kernel
  obtain ⟨hlayout, hbelow⟩ := generated_layout logarithmPairing_isBilinear
  obtain ⟨g, h, t, hgenerated, -⟩ := hlayout (.text "s") _ _ (by simp) rfl
    (show Text.encodeUtf8? (Text.ofString "s") = some [0x73] from rfl) hne
  refine ⟨⟨g 1, h 1, t 1, hgenerated 1 (.int 1) 1 rfl le_rfl⟩, ?_⟩
  exact (hbelow 1 (.int 0) .null 0 rfl (by decide)).1 (by decide +kernel)

theorem generated_layout_unwritable :
    (Value.int (-(10 ^ 8000 : ℕ))).toInt = .ok (-(10 ^ 8000 : ℕ) : ℤ) ∧
    (-(10 ^ 8000 : ℕ) : ℤ) < 1 ∧
    generate atePairing 1 (.int (-(10 ^ 8000 : ℕ))) (.text "s") = .error (.fault .unwritable) ∧
    Fault.unwritable.name = "ValueError" := by
  have hbelow : (-(10 ^ 8000 : ℕ) : ℤ) < 1 := by decide +kernel
  have hwritable : Text.isWritable (-(10 ^ 8000 : ℕ)) = false := by decide +kernel
  exact ⟨rfl, hbelow, generate_unwritable atePairing 1 rfl hbelow hwritable _, rfl⟩

end VectorCommitment
